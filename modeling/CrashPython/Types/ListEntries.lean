import CrashPython.Types.ListReverse
import CrashPython.Util.Offsetof
import Mathlib.Data.List.Rotate

namespace CrashPython
namespace Types

open Library Util

/-!
# Lists of objects

`list_for_each_entry` yields the objects that the nodes of a list are embedded in.  On a list
whose links are right in both directions these are different objects, and the walk completes
on no other list.

Following the links from a node always leads the same way.  Two such lists that have an object
in common are therefore the same list, entered at different heads.
-/

/-- The object around a node, by `container_of`. -/
def entryOf (offset node : Nat) : Nat :=
  pointerOf ((node : Int) - offset)

/-- The address of a member of an object. -/
def memberOf (offset object : Nat) : Nat :=
  pointerOf ((object : Int) + offset)

theorem memberOf_lt (offset object : Nat) : memberOf offset object < 2 ^ 64 := by
  simp only [memberOf, pointerOf]
  omega

theorem entryOf_lt (offset node : Nat) : entryOf offset node < 2 ^ 64 := by
  simp only [entryOf, pointerOf]
  omega

theorem entryOf_memberOf {object : Nat} (small : object < 2 ^ 64) (offset : Nat) :
    entryOf offset (memberOf offset object) = object :=
  pointerOf_sub small offset

theorem memberOf_entryOf {node : Nat} (small : node < 2 ^ 64) (offset : Nat) :
    memberOf offset (entryOf offset node) = node := by
  simp only [memberOf, entryOf, pointerOf]
  omega

/-- `list_for_each_entry`, without the lines it may print about broken links. -/
def listEntries (memory : ListMemory) (options : ListOptions) (offset head : Nat) : Run Nat ListError :=
  ⟨(yieldedNodes (listRun memory.image options head).events).map (entryOf offset),
    (listRun memory.image options head).ending⟩

/-- The objects on a list whose links are right in both directions. -/
def SoundList (memory : ListMemory) (offset head : Nat) (objects : List Nat) : Prop :=
  Exists fun nodes : List Nat => ListRing memory.image {} head nodes ∧
    BackLinked memory.image {} head nodes ∧ objects = nodes.map (entryOf offset)

variable {memory : ListMemory} {offset head other : Nat} {objects others : List Nat}

/-- Only the direction of a walk decides where its links lead. -/
theorem ListRing.of_reverse {image : MemoryImage ListHead} {one two : ListOptions} {nodes : List Nat}
    (ring : ListRing image one head nodes) (same : one.reverse = two.reverse) :
    ListRing image two head nodes := by
  have name : one.nextName = two.nextName := by
    simp only [ListOptions.nextName, same]
  have chain : listChain image one head = listChain image two head := by
    funext index
    simp only [listChain, name]
  exact ⟨chain ▸ ring.visits, chain ▸ ring.returns, ring.distinct, ring.headless, ring.nonNull⟩

theorem BackLinked.of_reverse {image : MemoryImage ListHead} {one two : ListOptions} {nodes : List Nat}
    (linked : BackLinked image one head nodes) (same : one.reverse = two.reverse) :
    BackLinked image two head nodes := by
  have name : one.prevName = two.prevName := by
    simp only [ListOptions.prevName, same]
  intro index node previous nodeAt previousAt
  rcases linked index node previous nodeAt previousAt with ⟨cell, readable, back⟩
  exact ⟨cell, readable, name ▸ back⟩

/-- The points of a ring are the points of its chain. -/
theorem ListRing.mem_iff {image : MemoryImage ListHead} {options : ListOptions} {nodes : List Nat}
    {node : Nat} (ring : ListRing image options head nodes) : node ∈ head :: nodes <->
      Exists fun index : Nat => listChain image options head index = some node := by
  have position : forall index, index < nodes.length + 1 ->
      listChain image options head index = (head :: nodes)[index]? := by
    intro index bounded
    cases index with
    | zero => rfl
    | succ index => exact ring.visits index (Nat.lt_of_succ_lt_succ bounded)
  constructor
  · intro member
    rcases List.getElem?_of_mem member with ⟨index, found⟩
    have bounded := (List.getElem?_eq_some_iff.mp found).1
    exact ⟨index, (position index bounded).trans found⟩
  · rintro ⟨index, here⟩
    have closed := ring.firstReturn
    rcases orbit_mem_period closed.positive closed.repeats (Nat.zero_le index) with
      ⟨within, _, bounded, same⟩
    rw [Nat.zero_add] at bounded
    have listed : listChain image options head within = some node := same.trans here
    rw [position within bounded] at listed
    exact List.mem_of_getElem? listed

/-- A ring that shares a point with another one passes the head of it. -/
theorem ListRing.head_mem {image : MemoryImage ListHead} {options : ListOptions} {nodes around : List Nat}
    {node : Nat} (one : ListRing image options head nodes) (two : ListRing image options other around)
    (first : node ∈ head :: nodes) (second : node ∈ other :: around) : other ∈ head :: nodes := by
  rcases one.mem_iff.mp first with ⟨here, found⟩
  rcases two.mem_iff.mp second with ⟨there, met⟩
  exact one.mem_iff.mpr (two.firstReturn.reached found met)

/-- A ring can be entered at each of its nodes. -/
theorem ListRing.turned {image : MemoryImage ListHead} {options : ListOptions} {before after : List Nat}
    (ring : ListRing image options head (before ++ other :: after)) :
    ListRing image options other (after ++ head :: before) := by
  have whole : head :: (before ++ other :: after ++ [head]) =
      (head :: before) ++ other :: (after ++ [head]) := by simp
  have again : other :: (after ++ head :: before ++ [other]) =
      (other :: after) ++ head :: (before ++ [other]) := by simp
  have route := ring.route
  rw [Route, whole, List.isChain_split] at route
  have same : ((head :: before) ++ other :: after).Perm (other :: after ++ head :: before) :=
    List.perm_append_comm
  have once : (other :: after ++ head :: before).Nodup :=
    same.nodup (List.nodup_cons.mpr ⟨ring.headless, ring.distinct⟩)
  rcases List.nodup_cons.mp once with ⟨headless, distinct⟩
  refine .of_route ?_ distinct headless fun member => ring.nonNull (same.mem_iff.mpr member)
  rw [Route, again, List.isChain_split]
  exact ⟨route.2, route.1⟩

/-- The ring of a head is determined. -/
theorem ListRing.unique {image : MemoryImage ListHead} {options : ListOptions} {nodes around : List Nat}
    (one : ListRing image options head nodes) (two : ListRing image options head around) :
    nodes = around := by
  have size : nodes.length = around.length := by
    have first := one.firstReturn
    have second := two.firstReturn
    rcases Nat.lt_trichotomy nodes.length around.length with less | equal | greater
    · exact False.elim (second.first _ first.positive (Nat.succ_lt_succ less) first.returns)
    · exact equal
    · exact False.elim (first.first _ second.positive (Nat.succ_lt_succ greater) second.returns)
  apply List.ext_getElem? fun index => ?_
  by_cases inside : index < nodes.length
  · rw [← one.visits index inside, two.visits index (size ▸ inside)]
  · rw [List.getElem?_eq_none (Nat.le_of_not_lt inside),
      List.getElem?_eq_none (size ▸ Nat.le_of_not_lt inside)]

/-- Rings that share a point are one ring, entered at two points. -/
theorem ListRing.isRotated {image : MemoryImage ListHead} {options : ListOptions} {nodes around : List Nat}
    {node : Nat} (one : ListRing image options head nodes) (two : ListRing image options other around)
    (first : node ∈ head :: nodes) (second : node ∈ other :: around) :
    (head :: nodes).IsRotated (other :: around) := by
  rcases List.mem_cons.mp (one.head_mem two first second) with rfl | later
  · rw [one.unique two]
  · rcases List.append_of_mem later with ⟨before, after, rfl⟩
    rw [two.unique one.turned]
    exact @List.isRotated_append _ (head :: before) (other :: after)

/-- The nodes of a ring are words. -/
theorem ListMemory.ring_words {nodes : List Nat} (ring : ListRing memory.image {} head nodes)
    (linked : BackLinked memory.image {} head nodes) {node : Nat} (member : node ∈ nodes) :
    node < 2 ^ 64 := by
  rw [← (listRun_ring ring linked rfl).1] at member
  exact memory.yielded_word rfl member

section Quiet

variable {image : MemoryImage ListHead} {options : ListOptions}

/-- The events of an iteration that proceeds. -/
theorem listWalkStep_events {walk next : ListWalk} {events : List ListEvent} {cell : ListHead}
    (readable : image.read walk.node = some cell)
    (step : listWalkStep image options head walk = (events, .proceed next)) :
    Exists fun marked : ListWalk => marked.prev = walk.prev ∧
      events = (checkBackLink options cell marked).1 ++ [.yielded walk.node] := by
  refine ⟨if options.exactCycles then { walk with visited := insert walk.node walk.visited } else walk,
    by cases options.exactCycles <;> rfl, ?_⟩
  simp only [listWalkStep, listHeadVisit, readable] at step
  split at step
  · cases step
  · split at step
    · cases step
    · split at step
      · cases step
      · exact (congrArg Prod.fst step).symm
      · exact (congrArg Prod.fst step).symm

/-- An iteration that leaves no exception pending has only yielded its node. -/
theorem listWalkStep_quiet {walk next : ListWalk} {events : List ListEvent}
    (step : listWalkStep image options head walk = (events, .proceed next))
    (calm : next.pendingException = none) :
    walk.pendingException = none ∧ events = [.yielded walk.node] := by
  rcases listWalkStep_cases walk step with ⟨cell, proceeds⟩
  have pending := proceeds.pending
  rw [calm] at pending
  by_cases broken : walk.prev ≠ cell.link options.prevName
  · rw [(checkBackLink_broken broken).1] at pending
    cases pending
  · have intact := not_not.mp broken
    rw [checkBackLink_intact intact] at pending
    rcases listWalkStep_events proceeds.readable step with ⟨marked, same, shape⟩
    rw [checkBackLink_intact (same.trans intact)] at shape
    exact ⟨pending.symm, shape⟩

/-- A walk with nothing pending has printed nothing. -/
theorem advance_quiet {first count : Nat} {before : List ListEvent} {walk : ListWalk}
    (reached : advance (listWalkStep image options head) count (listWalkStart head first) =
      some (before, walk)) (calm : walk.pendingException = none) {event : ListEvent}
    (member : event ∈ before) : Exists fun node : Nat => event = .yielded node := by
  refine advance_invariant (fun _ events walk => walk.pendingException = none ->
    forall event, event ∈ events -> Exists fun node : Nat => event = .yielded node) ?_ ?_ reached calm event member
  · intro _ other listed
    exact False.elim (List.not_mem_nil listed)
  · intro count before walk events next inductionHypothesis step calm other listed
    rcases listWalkStep_quiet step calm with ⟨earlier, shape⟩
    rcases List.mem_append.mp listed with passed | last
    · exact inductionHypothesis earlier other passed
    · rw [shape] at last
      exact ⟨walk.node, List.mem_singleton.mp last⟩

/-- A walk that completes has printed nothing. -/
theorem listRun_quiet (completed : (listRun image options head).ending = .completed)
    {event : ListEvent} (member : event ∈ (listRun image options head).events) :
    Exists fun node : Nat => event = .yielded node := by
  have ran := listHeadForEach_listRun image options head (Nat.le_refl _)
  generalize listRun image options head = run at ran completed member
  simp only [listHeadForEach] at ran
  split at ran
  · cases ran
    cases completed
  · split at ran
    · cases ran
      cases completed
    · split at ran
      · cases ran
        cases completed
      · rcases Option.map_eq_some_iff.mp ran with ⟨⟨events, ending⟩, exhausted, rfl⟩
        rcases exhaust_inv exhausted with ⟨count, before, walk, emitted, reached, step, shape⟩
        have stops := listWalkStep_cases walk step
        change ending = .completed at completed
        change events = before ++ emitted at shape
        change Stops image options head walk emitted ending at stops
        subst completed
        cases stops with
        | atHead here silent ends =>
            have calm : walk.pendingException = none := by
              simp only [ListWalk.ending] at ends
              split at ends
              · assumption
              · cases ends
            rw [silent, List.append_nil] at shape
            subst shape
            rcases List.mem_append.mp member with opening | walked
            · split at opening
              · exact ⟨head, List.mem_singleton.mp opening⟩
              · exact False.elim (List.not_mem_nil opening)
            · exact advance_quiet reached calm walked

/-- The events of a walk that completes are the nodes it yields. -/
theorem listRun_events (completed : (listRun image options head).ending = .completed) :
    (listRun image options head).events =
      (yieldedNodes (listRun image options head).events).map .yielded := by
  have quiet : forall event, event ∈ (listRun image options head).events ->
      Exists fun node : Nat => event = .yielded node :=
    fun event member => listRun_quiet completed member
  generalize (listRun image options head).events = events at quiet
  induction events with
  | nil => rfl
  | cons event rest inductionHypothesis =>
      rcases quiet event List.mem_cons_self with ⟨node, rfl⟩
      have later := inductionHypothesis fun other member => quiet other (List.mem_cons_of_mem _ member)
      change _ :: rest = _ :: (yieldedNodes rest).map .yielded
      rw [← later]

end Quiet

/-- The walk completes exactly on such lists. -/
theorem listEntries_completed_iff (includeHead : Bool) :
    (listEntries memory { includeHead := includeHead } offset head).ending = .completed <->
      Exists fun objects : List Nat => SoundList memory offset head objects := by
  have ended := listRun_cases memory.image { includeHead := includeHead } head
  constructor
  · intro completed
    rcases ring_of_completed ended completed with ⟨nodes, ring, linked, _⟩
    exact ⟨_, nodes, ring.of_reverse rfl, linked.of_reverse rfl, rfl⟩
  · rintro ⟨objects, nodes, ring, linked, _⟩
    have turned : ListRing memory.image { includeHead := includeHead } head nodes := ring.of_reverse rfl
    exact (turned.headRun_completed_iff ended).mpr (linked.of_reverse rfl)

namespace SoundList

/-- A list is sound if its links lead from each node to the next and back. -/
theorem of_links (nodes : List Nat)
    (forward : Route (followLink memory.image .next) (head :: (nodes ++ [head])))
    (back : (head :: nodes).IsChain fun point next => followLink memory.image .prev next = some point)
    (distinct : (0 :: head :: nodes).Nodup) (shown : objects = nodes.map (entryOf offset)) :
    SoundList memory offset head objects := by
  rcases List.nodup_cons.mp distinct with ⟨nonNull, different⟩
  rcases List.nodup_cons.mp different with ⟨headless, once⟩
  exact ⟨nodes, .of_route forward once headless nonNull, backLinked_iff_isChain.mpr back, shown⟩

/-- What the walk yields. -/
theorem listEntries (sound : SoundList memory offset head objects) (includeHead : Bool) :
    listEntries memory { includeHead := includeHead } offset head =
      ⟨(if includeHead then [entryOf offset head] else []) ++ objects, .completed⟩ := by
  rcases sound with ⟨nodes, ring, linked, rfl⟩
  have ended := listRun_cases memory.image { includeHead := includeHead } head
  have turned : ListRing memory.image { includeHead := includeHead } head nodes := ring.of_reverse rfl
  have completed := (turned.headRun_completed_iff ended).mpr (linked.of_reverse rfl)
  have yields := turned.headRun_yields ended
  rw [Types.listEntries, completed, yields, List.map_append]
  cases includeHead <;> rfl

/-- The list of a head is determined. -/
theorem unique (sound : SoundList memory offset head objects)
    (again : SoundList memory offset head others) : objects = others := by
  have same := (sound.listEntries false).symm.trans (again.listEntries false)
  exact congrArg Run.events same

/-- Objects are at addresses. -/
theorem words (sound : SoundList memory offset head objects) {object : Nat}
    (member : object ∈ objects) : object < 2 ^ 64 := by
  rcases sound with ⟨nodes, ring, linked, rfl⟩
  rcases List.mem_map.mp member with ⟨node, _, rfl⟩
  exact entryOf_lt offset node

/-- The objects differ from each other. -/
theorem distinct (sound : SoundList memory offset head objects) : objects.Nodup := by
  rcases sound with ⟨nodes, ring, linked, rfl⟩
  refine List.Nodup.map_on ?_ ring.distinct
  intro one here two there same
  rw [← memberOf_entryOf (memory.ring_words ring linked here) offset, same,
    memberOf_entryOf (memory.ring_words ring linked there) offset]

/-- The objects differ from each other and from that of the head. -/
theorem nodup (sound : SoundList memory offset head objects) (word : head < 2 ^ 64) :
    (entryOf offset head :: objects).Nodup := by
  rcases sound with ⟨nodes, ring, linked, rfl⟩
  rw [← List.map_cons]
  apply List.Nodup.map_on _ (List.nodup_cons.mpr ⟨ring.headless, ring.distinct⟩)
  have words : forall node, node ∈ head :: nodes -> node < 2 ^ 64 := by
    intro node member
    rcases List.mem_cons.mp member with rfl | later
    · exact word
    · exact memory.ring_words ring linked later
  intro first firstMember second secondMember same
  rw [← memberOf_entryOf (words first firstMember) offset, same,
    memberOf_entryOf (words second secondMember) offset]

/-- Two lists that share an object, that of the head included, are one list. -/
theorem isRotated (one : SoundList memory offset head objects)
    (two : SoundList memory offset other others) (word : head < 2 ^ 64) (otherWord : other < 2 ^ 64)
    (object : Nat) (first : object ∈ entryOf offset head :: objects)
    (second : object ∈ entryOf offset other :: others) :
    (entryOf offset head :: objects).IsRotated (entryOf offset other :: others) := by
  rcases one with ⟨nodes, ring, linked, rfl⟩
  rcases two with ⟨around, ringToo, linkedToo, rfl⟩
  rw [← List.map_cons] at first second
  rw [← List.map_cons, ← List.map_cons]
  rcases List.mem_map.mp first with ⟨node, member, rfl⟩
  rcases List.mem_map.mp second with ⟨met, memberToo, same⟩
  have small : node < 2 ^ 64 := by
    rcases List.mem_cons.mp member with rfl | later
    · exact word
    · exact memory.ring_words ring linked later
  have smallToo : met < 2 ^ 64 := by
    rcases List.mem_cons.mp memberToo with rfl | later
    · exact otherWord
    · exact memory.ring_words ringToo linkedToo later
  have equal : met = node := by
    rw [← memberOf_entryOf smallToo offset, same, memberOf_entryOf small offset]
  subst equal
  exact (ring.isRotated ringToo member memberToo).map (entryOf offset)

end SoundList

end Types
end CrashPython

import CrashPython.Types.ListRing

namespace CrashPython
namespace Types

open Library

/-!
# The result of a walk

The iterator always ends, so that a walk over a list head has a result of its
own, `listRun`, without fuel.  The lemmas say what a consumer can rely on: in
exact mode no node is yielded twice, and every yielded node is the target of a
link that was read.
-/

variable {memory : MemoryImage ListHead} {options : ListOptions} {head : Nat}

/-- The run of the iterator over a list head, with fuel that is enough. -/
def listRun (memory : MemoryImage ListHead) (options : ListOptions) (head : Nat) :
    Run ListEvent ListError :=
  (listHeadForEach memory options head (walkBound memory)).getD ⟨[], .completed⟩

theorem listHeadForEach_listRun (memory : MemoryImage ListHead) (options : ListOptions) (head : Nat)
    {fuel : Nat} (enough : walkBound memory ≤ fuel) :
    listHeadForEach memory options head fuel = some (listRun memory options head) := by
  rcases listHeadForEach_finishes memory options head with ⟨run, finishes⟩
  rw [finishes fuel enough, listRun, finishes (walkBound memory) (Nat.le_refl _), Option.getD_some]

theorem listRun_cases (memory : MemoryImage ListHead) (options : ListOptions) (head : Nat) :
    HeadRun memory options head (listRun memory options head) :=
  listHeadForEach_cases (listHeadForEach_listRun memory options head (Nat.le_refl _))

/-- The run along a ring whose back links are right. -/
theorem listRun_ring {memory : MemoryImage ListHead} {options : ListOptions} {head : Nat}
    {nodes : List Nat} (ring : ListRing memory options head nodes)
    (linked : BackLinked memory options head nodes) (headless : options.includeHead = false) :
    yieldedNodes (listRun memory options head).events = nodes ∧
      (listRun memory options head).ending = .completed := by
  have ended := listRun_cases memory options head
  refine ⟨?_, (ring.headRun_completed_iff ended).mpr linked⟩
  rw [ring.headRun_yields ended, headless]
  rfl

section Yields

variable {count : Nat} {before : List ListEvent} {walk : ListWalk}

/-- The nodes of a proceeding prefix, with their positions on the chain. -/
theorem walkInvariant_yields (invariant : WalkInvariant memory options head count before walk)
    {node : Nat} (member : node ∈ yieldedNodes before) :
    Exists fun index : Nat => index < count ∧ listChain memory options head (index + 1) = some node := by
  have image : some node ∈ (yieldedNodes before).map some := List.mem_map_of_mem member
  rw [invariant.yields] at image
  rcases List.mem_map.mp image with ⟨index, bounded, same⟩
  exact ⟨index, List.mem_range.mp bounded, same⟩

/-- In exact mode a proceeding prefix yields every node once. -/
theorem walkInvariant_nodup (invariant : WalkInvariant memory options head count before walk)
    (exactMode : options.exactCycles = true) : (yieldedNodes before).Nodup := by
  apply List.Nodup.of_map some
  rw [invariant.yields]
  apply List.Nodup.map_on _ List.nodup_range
  intro first firstBounded second secondBounded same
  have firstBelow := List.mem_range.mp firstBounded
  have secondBelow := List.mem_range.mp secondBounded
  rcases Nat.lt_trichotomy first second with less | equal | greater
  · exact False.elim (invariant.distinct exactMode (first + 1) (second + 1) (Nat.succ_pos _)
      (Nat.succ_lt_succ less) secondBelow same)
  · exact equal
  · exact False.elim (invariant.distinct exactMode (second + 1) (first + 1) (Nat.succ_pos _)
      (Nat.succ_lt_succ greater) firstBelow same.symm)

/-- A node with a null link has not been passed before, because a walk does not
get past a null link. -/
theorem walkInvariant_null_fresh (invariant : WalkInvariant memory options head count before walk)
    {cell : ListHead} (readable : memory.read walk.node = some cell)
    (null : cell.link options.nextName = 0) : walk.node ∉ yieldedNodes before := by
  intro member
  rcases walkInvariant_yields invariant member with ⟨index, bounded, here⟩
  have further := listChain_succ here readable
  rw [null] at further
  rcases Nat.lt_or_ge (index + 1) count with inside | last
  · rcases invariant.passed (index + 2) (Nat.succ_pos _) inside with ⟨address, found, _, nonNull, _⟩
    rw [further] at found
    exact nonNull (Option.some.inj found).symm
  · have position : index + 1 = count := Nat.le_antisymm bounded last
    have found := invariant.nodeAt
    rw [← position, further] at found
    exact invariant.nonNull (Option.some.inj found).symm

end Yields

/-- A walk that does not include the head yields nothing before its loop. -/
theorem listRun_walked (memory : MemoryImage ListHead) (head : Nat) {options : ListOptions}
    (headless : options.includeHead = false) :
    (listRun memory options head).events = [] ∨
      Exists fun count : Nat => Exists fun before : List ListEvent =>
        Exists fun emitted : List ListEvent => Exists fun walk : ListWalk =>
          WalkInvariant memory options head count before walk ∧
            Stops memory options head walk emitted (listRun memory options head).ending ∧
              (listRun memory options head).events = before ++ emitted := by
  simp only [listRun, listHeadForEach]
  by_cases null : head = 0
  · rw [if_pos null]
    exact Or.inl rfl
  · rw [if_neg null, headless]
    cases linked : followLink memory options.nextName head with
    | none => exact Or.inl rfl
    | some first =>
        by_cases firstNull : first = 0
        · simp only [if_pos firstNull]
          exact Or.inl rfl
        · rcases listWalk_finishes linked firstNull with ⟨run, finishes⟩
          have finished := finishes (walkBound memory) (Nat.le_refl _)
          simp only [if_neg firstNull, finished, Option.map_some, Option.getD_some]
          rcases exhaust_inv finished with ⟨count, before, walk, emitted, reached, step, shape⟩
          exact Or.inr ⟨count, before, emitted, walk, walkInvariant_advance linked firstNull reached,
            listWalkStep_cases walk step, shape⟩

/-- In exact mode a walk yields every node at most once. -/
theorem listRun_nodup (memory : MemoryImage ListHead) (head : Nat) {options : ListOptions}
    (exactMode : options.exactCycles = true) (headless : options.includeHead = false) :
    (yieldedNodes (listRun memory options head).events).Nodup := by
  rcases listRun_walked memory head headless with
    empty | ⟨count, before, emitted, walk, invariant, stops, shape⟩
  · rw [empty]
    exact List.nodup_nil
  · have distinct := walkInvariant_nodup invariant exactMode
    rw [shape, yieldedNodes_append]
    generalize (listRun memory options head).ending = ending at stops
    cases stops with
    | atHead here silent ends =>
        rw [silent]
        simpa only [yieldedNodes, List.filterMap_nil, List.append_nil] using distinct
    | revisited notHead mode seen silent =>
        rw [silent]
        simpa only [yieldedNodes, List.filterMap_nil, List.append_nil] using distinct
    | unreadable notHead unmapped silent =>
        rw [silent]
        simpa only [yieldedNodes, List.filterMap_nil, List.append_nil] using distinct
    | null cell notHead readable null yields =>
        rw [yields]
        apply List.Nodup.append distinct (List.nodup_singleton _)
        intro node member last
        rw [List.mem_singleton.mp last] at member
        exact walkInvariant_null_fresh invariant readable null member
    | caught cell notHead readable yields meets =>
        have inexact := (caught_position invariant readable meets).1
        rw [exactMode] at inexact
        cases inexact

/-- A yielded node is the target of a link. -/
theorem listRun_linked (memory : MemoryImage ListHead) (head : Nat) {options : ListOptions}
    (headless : options.includeHead = false) {node : Nat}
    (member : node ∈ yieldedNodes (listRun memory options head).events) :
    Exists fun address : Nat => Exists fun cell : ListHead =>
      memory.read address = some cell ∧ cell.link options.nextName = node := by
  have linked {index : Nat} (here : listChain memory options head (index + 1) = some node) :
      Exists fun address : Nat => Exists fun cell : ListHead =>
        memory.read address = some cell ∧ cell.link options.nextName = node := by
    have further : (listChain memory options head (index + 1)).isSome := by
      rw [here]
      rfl
    have reached : (listChain memory options head index).isSome :=
      orbit_isSome_of_le (Nat.le_succ index) further
    rcases Option.isSome_iff_exists.mp reached with ⟨address, before⟩
    rcases readable_of_listChain_succ before further with ⟨cell, readable⟩
    rw [listChain_succ before readable] at here
    exact ⟨address, cell, readable, Option.some.inj here⟩
  rcases listRun_walked memory head headless with
    empty | ⟨count, before, emitted, walk, invariant, stops, shape⟩
  · rw [empty] at member
    cases member
  · rw [shape, yieldedNodes_append] at member
    rcases List.mem_append.mp member with passed | last
    · rcases walkInvariant_yields invariant passed with ⟨index, _, here⟩
      exact linked here
    · generalize (listRun memory options head).ending = ending at stops
      have same : node = walk.node := by
        cases stops with
        | atHead here silent ends =>
            rw [silent] at last
            cases last
        | revisited notHead mode seen silent =>
            rw [silent] at last
            cases last
        | unreadable notHead unmapped silent =>
            rw [silent] at last
            cases last
        | null cell notHead readable null yields =>
            rw [yields] at last
            exact List.mem_singleton.mp last
        | caught cell notHead readable yields meets =>
            rw [yields] at last
            exact List.mem_singleton.mp last
      rw [same] at linked ⊢
      exact linked invariant.nodeAt

/-- List heads in memory.  A link is a machine word. -/
structure ListMemory where
  image : MemoryImage ListHead
  word : forall address cell, image.read address = some cell -> cell.next < 2 ^ 64 ∧ cell.prev < 2 ^ 64

/-- Memory given by a table of list heads. -/
def ListMemory.ofTable (cells : List (Nat × ListHead))
    (words : forall entry, entry ∈ cells -> entry.2.next < 2 ^ 64 ∧ entry.2.prev < 2 ^ 64) :
    ListMemory where
  image := MemoryImage.ofTable cells
  word := by
    intro address cell found
    rcases List.lookup_eq_some_iff.mp found with ⟨before, rest, shape, _⟩
    apply words (address, cell)
    rw [shape]
    exact List.mem_append_right _ List.mem_cons_self

/-- Memory without list heads. -/
def ListMemory.empty : ListMemory :=
  .ofTable [] fun _ member => (List.not_mem_nil member).elim

/-- A yielded node is a machine word. -/
theorem ListMemory.yielded_word (memory : ListMemory) {head : Nat} {options : ListOptions}
    (headless : options.includeHead = false) {node : Nat}
    (member : node ∈ yieldedNodes (listRun memory.image options head).events) : node < 2 ^ 64 := by
  rcases listRun_linked memory.image head headless member with ⟨address, cell, readable, rfl⟩
  have words := memory.word address cell readable
  cases options.nextName with
  | next => exact words.1
  | prev => exact words.2

end Types
end CrashPython

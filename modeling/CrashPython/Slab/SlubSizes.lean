import CrashPython.Slab.SlubQueries
import CrashPython.Types.Cpu

namespace CrashPython
namespace Slab
namespace KmemCacheSLUB

open Library Types

/-!
# The sizes of the chains of processors

The constructor of a cache makes a list with one place for each online processor,
and the scan writes the size of the chain of a processor to the place with the
number of the processor.  The two agree as long as no number is missing below the
number of an online processor.  With a gap the last of the online processors has
no place.

A scan with headers leads into other caches and back into its own.  Neither touches
the sizes: the other caches have lists of their own, and a cache of which slabs are
known is not filled in again.
-/

variable (cache : KmemCacheSLUB)

/-- The list of the sizes. -/
def sizesOf (world : SlubWorld) : List Nat :=
  (world.tables cache.address).cpuFreelistsSizes

/-- Once a slab of the cache is known, its sizes stay. -/
structure SizesStay (before after : SlubWorld) : Prop where
  grows : GrowsAt cache before after
  sizes : (before.tables cache.address).cpuSlabs ≠ [] -> sizesOf cache after = sizesOf cache before

variable {cache} {system : SlubSystem}

/-- A slab that is known stays known. -/
theorem known_of_grows {before after : SlubWorld} (grows : GrowsAt cache before after)
    (known : (before.tables cache.address).cpuSlabs ≠ []) :
    (after.tables cache.address).cpuSlabs ≠ [] := by
  intro none
  have prefixed := grows.slabs
  rw [none] at prefixed
  exact known (List.prefix_nil.mp prefixed)

theorem sizesStay_overlooks (cache : KmemCacheSLUB) : Overlooks cache (SizesStay cache) where
  accumulates := by
    constructor
    · exact fun world => ⟨(growsAt_accumulates cache).refl world, fun _ => rfl⟩
    · intro first second third early late
      refine ⟨(growsAt_accumulates cache).trans early.grows late.grows, ?_⟩
      intro known
      rw [late.sizes (known_of_grows early.grows known), early.sizes known]
  unchanged := by
    intro before after same
    refine ⟨(growsAt_overlooks cache).unchanged same, fun _ => ?_⟩
    simp only [sizesOf]
    rw [same]
  placed := by
    intro world places
    refine ⟨(growsAt_overlooks cache).placed world places, fun _ => ?_⟩
    simp only [sizesOf]
    rw [SlubWorld.update_tables_self]
  flagged := by
    intro before after same
    refine ⟨(growsAt_overlooks cache).flagged same, fun _ => ?_⟩
    simp only [sizesOf]
    rw [same, SlubWorld.update_tables_self]

/-! ## Headers -/

/-- A pass at print level 0 over a cache of which slabs are known. -/
theorem processQuietly_known {fuel : Nat} {world : SlubWorld}
    (unprocessed : (world.tables cache.address).processed = false)
    (known : (world.tables cache.address).cpuSlabs ≠ []) :
    (processQuietly system fuel cache).run world =
      (finish system cache (fun _ => pure ⟨⟩) 0).run world := by
  have idle : (processPercpu system cache (fun _ => pure ⟨⟩) 0 fuel).run world = .ok ⟨⟩ world := by
    unfold processPercpu
    rw [tables_bind, if_pos ⟨List.isEmpty_eq_false_iff.mpr known, rfl⟩]
    rfl
  simp only [processQuietly]
  rw [processAllWith_eq, tables_bind, unprocessed,
    if_neg fun both => Bool.false_ne_true (And.right both), EStateM.run_bind, idle]

/-- `slub_process_once` for any cache. -/
theorem slubProcessOnce_stays (system : SlubSystem) (cache other : KmemCacheSLUB) (fuel : Nat) :
    Evolves (SizesStay cache) (slubProcessOnce system fuel other) := by
  intro world
  refine ⟨slubProcessOnce_grows system cache other fuel world, fun known => ?_⟩
  by_cases own : cache.address = other.address
  · simp only [slubProcessOnce]
    rw [tables_bind]
    cases flag : (world.tables other.address).processed with
    | true => rfl
    | false =>
        rw [own] at known
        have stays : Evolves (SizesStay other) (finish system other (fun _ => pure ⟨⟩) 0) := by
          apply finish_evolves (sizesStay_overlooks other)
          exact fun _ => Evolves.returns (sizesStay_overlooks other).accumulates _
        have same := (stays world).sizes known
        simp only [sizesOf] at same ⊢
        rw [if_neg Bool.false_ne_true, finalState_discard, processQuietly_known flag known, own]
        exact same
  · have shown := (slubProcessOnce_enacts system other fuel (world.tables other.address)).shown rfl
    rw [performed_local] at shown
    simp only [sizesOf]
    rw [tables_of_othersView (congrArg Prod.snd shown) own]

/-! ## The slabs of a processor -/

/-- A slab that is taken leaves the sizes alone. -/
theorem holdSlab_sizes (page : Nat) (place : CpuPlace) :
    Evolves (Keeps (sizesOf cache)) (holdSlab system cache true page place) := by
  apply Evolves.reads (keeps_accumulates (sizesOf cache))
  intro slab world
  have after := addPercpuSlub_tables system cache slab place world
  simp only [Keeps, sizesOf]
  simp only [if_true]
  rw [after]
  split
  · rfl
  · rw [SlubWorld.update_tables_self]
    rfl

/-- A slab that was taken is known. -/
theorem holdSlab_known {page : Nat} {place : CpuPlace} {slab : SlabSLUB} {before after : SlubWorld}
    (ran : (holdSlab system cache true page place).run before = .ok slab after) :
    (after.tables cache.address).cpuSlabs ≠ [] := by
  rcases run_bind_ok ran with ⟨made, middle, _, ran⟩
  simp only [if_true] at ran
  have tables := addPercpuSlub_tables system cache made place middle
  rw [ran] at tables
  cases known : (middle.tables cache.address).cpuSlabs.lookup made.address with
  | some other =>
      rw [known] at tables
      change after.tables = middle.tables at tables
      rw [tables]
      exact List.ne_nil_of_mem (mem_of_lookup known)
  | none =>
      rw [known] at tables
      change after.tables = (middle.update cache.address (enterSlab made place)).tables at tables
      rw [tables, SlubWorld.update_tables_self]
      exact List.append_ne_nil_of_right_ne_nil _ (List.cons_ne_nil _ _)

/-- What is done with a slab that was taken. -/
theorem held_sizes {Value : Type} {page : Nat} {place : CpuPlace} {body : SlabSLUB -> SlubM Value}
    (stays : forall slab, Evolves (SizesStay cache) (body slab)) :
    Evolves (Keeps (sizesOf cache)) (holdSlab system cache true page place >>= body) := by
  intro world
  have step : Keeps (sizesOf cache) world
      (finalState ((holdSlab system cache true page place).run world)) :=
    holdSlab_sizes page place world
  rw [EStateM.run_bind]
  cases ran : (holdSlab system cache true page place).run world with
  | error error middle =>
      rw [ran] at step
      exact step
  | ok slab middle =>
      rw [ran] at step
      exact ((stays slab middle).sizes (holdSlab_known ran)).trans step

section Slabs

variable {header : SlabSLUB -> SlubM PUnit} (headed : forall slab, Evolves (SizesStay cache) (header slab))

include headed

/-- The active slab of a processor. -/
theorem scanActive_sizes (level cpu : Nat) (cpuSlab : KmemCacheCpu) :
    Evolves (Keeps (sizesOf cache)) (scanActive system cache header level true cpu cpuSlab) := by
  have overlooks := sizesStay_overlooks cache
  apply Evolves.reads (keeps_accumulates (sizesOf cache))
  intro page
  split
  · exact Evolves.returns (keeps_accumulates (sizesOf cache)) _
  · apply held_sizes
    intro slab
    apply Evolves.andThen overlooks.accumulates (fromLevel_evolves overlooks (headed slab))
    intro _
    apply Evolves.andThen overlooks.accumulates (warnFrozen_evolves overlooks slab 1 _)
    intro _
    exact fromLevel_evolves overlooks (populateFree_evolves overlooks slab).discarding

/-- One slab of the partial list of a processor. -/
theorem visitPartial_sizes (level cpu page : Nat) :
    Evolves (Keeps (sizesOf cache)) (visitPartial system cache header level true cpu page) := by
  have overlooks := sizesStay_overlooks cache
  apply held_sizes
  intro slab
  apply Evolves.reads overlooks.accumulates
  intro pages
  apply Evolves.andThen overlooks.accumulates (fromLevel_evolves overlooks (headed slab))
  intro _
  apply Evolves.andThen overlooks.accumulates
  · exact fromLevel_evolves overlooks (populateFree_evolves overlooks slab).discarding
  intro _
  apply Evolves.andThen overlooks.accumulates (warnFrozen_evolves overlooks slab 1 _)
  intro _
  exact Evolves.returns overlooks.accumulates pages

/-- The partial list of a processor. -/
theorem walkPartial_sizes (level cpu fuel page : Nat) (expected last : Int) :
    Evolves (Keeps (sizesOf cache))
      (walkPartial system cache header level true cpu fuel page expected last) := by
  have accumulates := keeps_accumulates (sizesOf cache)
  induction fuel generalizing page expected last with
  | zero => exact accumulates.refl
  | succ fuel inductionHypothesis =>
      simp only [walkPartial]
      split
      · split
        · exact Evolves.update fun world => rfl
        · exact Evolves.returns accumulates _
      · apply Evolves.andThen accumulates (visitPartial_sizes headed level cpu page)
        intro pages
        apply Evolves.andThen accumulates
        · split
          · exact Evolves.update fun world => rfl
          · exact Evolves.returns accumulates _
        intro _
        apply Evolves.reads accumulates
        intro next
        exact inductionHypothesis next (pages - 1) pages

theorem scanPartial_sizes (level cpu fuel : Nat) (cpuSlab : KmemCacheCpu) :
    Evolves (Keeps (sizesOf cache))
      (scanPartial system cache header level fuel true cpu cpuSlab) := by
  have accumulates := keeps_accumulates (sizesOf cache)
  apply Evolves.reads accumulates
  intro first
  split
  · exact Evolves.returns accumulates _
  · apply Evolves.reads accumulates
    intro expected
    exact walkPartial_sizes headed level cpu fuel first expected (-1)

end Slabs

/-! ## The chain of a processor -/

/-- The number of objects that are counted on a chain.  Where there are more than
the limit, the first one too many is counted as well. -/
def countedObjects (walk : List Nat × ChainEnd GdbError) : Nat :=
  walk.1.length + if walk.2 = .overflow then 1 else 0

theorem recordObject_sizes (cpu obj : Nat) (world : SlubWorld) :
    sizesOf cache (recordObject cache cpu obj world) = sizesOf cache world := by
  simp only [recordObject, sizesOf]
  split
  · rfl
  · rw [SlubWorld.update_tables_self]

theorem walkCpuFreelist_counts {cpu remaining nrFree freelist size : Nat} {before after : SlubWorld}
    (ran : (walkCpuFreelist system cache cpu remaining nrFree freelist).run before = .ok size after) :
    size = nrFree + countedObjects
        (chainWalk (SlabSLUB.freePointer system cache) remaining freelist) ∧
      sizesOf cache after = sizesOf cache before := by
  induction remaining generalizing nrFree freelist before with
  | zero =>
      simp only [walkCpuFreelist] at ran
      simp only [chainWalk]
      by_cases null : freelist = 0
      · rw [if_pos null] at ran ⊢
        cases ran
        exact ⟨rfl, rfl⟩
      · rw [if_neg null] at ran ⊢
        cases ran
        exact ⟨rfl, rfl⟩
  | succ remaining inductionHypothesis =>
      simp only [walkCpuFreelist] at ran
      simp only [chainWalk]
      by_cases null : freelist = 0
      · rw [if_pos null] at ran ⊢
        cases ran
        exact ⟨rfl, rfl⟩
      · rw [if_neg null] at ran ⊢
        rcases run_bind_ok ran with ⟨_, recorded, first, ran⟩
        cases first
        cases linked : SlabSLUB.freePointer system cache freelist with
        | error error =>
            rw [linked] at ran
            cases ran
        | ok next =>
            rw [linked] at ran
            rcases inductionHypothesis ran with ⟨counted, same⟩
            refine ⟨?_, same.trans (recordObject_sizes cpu freelist before)⟩
            rw [counted]
            simp only [countedObjects]
            simp only [List.length_cons]
            omega

/-- A value that gdb could read. -/
theorem peek_bind_ok {Found Value : Type} {read : Except GdbError Found}
    {body : Found -> SlubM Value} {before after : SlubWorld} {value : Value}
    (ran : (peek read >>= body).run before = .ok value after) :
    Exists fun found : Found => read = .ok found ∧ (body found).run before = .ok value after := by
  cases read with
  | error error => cases ran
  | ok found => exact ⟨found, rfl, ran⟩

/-- `_populate_cpu_freelist` counts the objects of the chain of the processor. -/
theorem populateCpuFreelist_counts {cpu size : Nat} {cpuSlab : KmemCacheCpu}
    {before after : SlubWorld}
    (ran : (populateCpuFreelist system cache cpu cpuSlab).run before = .ok size after) :
    (Exists fun walk : List Nat × ChainEnd GdbError => lockless system cache cpuSlab = .ok walk ∧
      size = countedObjects walk) ∧ sizesOf cache after = sizesOf cache before := by
  rcases peek_bind_ok ran with ⟨freelist, first, ran⟩
  by_cases null : freelist = 0
  · rw [if_pos null] at ran
    cases ran
    exact ⟨⟨([], .null), except_bind_ok.mpr ⟨freelist, first, if_pos null⟩, rfl⟩, rfl⟩
  · rw [if_neg null] at ran
    rcases peek_bind_ok ran with ⟨page, active, ran⟩
    rcases peek_bind_ok ran with ⟨nrObjects, limit, ran⟩
    rcases walkCpuFreelist_counts ran with ⟨counted, same⟩
    rw [Nat.zero_add] at counted
    refine ⟨⟨_, except_bind_ok.mpr ⟨freelist, first, ?_⟩, counted⟩, same⟩
    rw [if_neg null]
    exact except_bind_ok.mpr ⟨page, active, except_bind_ok.mpr ⟨nrObjects, limit, rfl⟩⟩

/-- The chain of a processor is counted, and its size is written to the place of the
processor. -/
theorem scanFreelist_counts {cpu : Nat} {cpuSlab : KmemCacheCpu} {before after : SlubWorld}
    (ran : (scanFreelist system cache true cpu cpuSlab).run before = .ok ⟨⟩ after) :
    cpu < (sizesOf cache before).length ∧
      Exists fun walk : List Nat × ChainEnd GdbError => lockless system cache cpuSlab = .ok walk ∧
        sizesOf cache after = (sizesOf cache before).set cpu (countedObjects walk) := by
  simp only [scanFreelist] at ran
  simp only [if_true] at ran
  rcases run_bind_ok ran with ⟨size, middle, populated, ran⟩
  rcases populateCpuFreelist_counts populated with ⟨⟨walk, walked, counted⟩, same⟩
  simp only [setSize] at ran
  rw [tables_bind] at ran
  by_cases inside : cpu < (middle.tables cache.address).cpuFreelistsSizes.length
  · rw [if_pos inside] at ran
    cases ran
    change cpu < (sizesOf cache middle).length at inside
    rw [same] at inside
    refine ⟨inside, walk, walked, ?_⟩
    rw [← same, ← counted]
    simp only [sizesOf]
    rw [SlubWorld.update_tables_self]
  · rw [if_neg inside] at ran
    cases ran

/-! ## The scan -/

/-- The size that the list has for the processor is the number of the objects on its
chain. -/
def RecordsSize (system : SlubSystem) (cache : KmemCacheSLUB) (sizes : List Nat) (cpu : Nat) : Prop :=
  Exists fun cpuSlab : KmemCacheCpu => Exists fun walk : List Nat × ChainEnd GdbError =>
    cache.cpuSlab cpu = .ok cpuSlab ∧ lockless system cache cpuSlab = .ok walk ∧
      sizes[cpu]? = some (countedObjects walk)

section Scan

variable {header : SlabSLUB -> SlubM PUnit} (headed : forall slab, Evolves (SizesStay cache) (header slab))
variable {level fuel : Nat}

include headed

/-- The loop body of `_process_percpu`. -/
theorem scanCpu_counts {cpu : Nat} {before after : SlubWorld}
    (ran : (scanCpu system cache header level fuel true cpu).run before = .ok ⟨⟩ after) :
    cpu < (sizesOf cache before).length ∧
      Exists fun cpuSlab : KmemCacheCpu => Exists fun walk : List Nat × ChainEnd GdbError =>
        cache.cpuSlab cpu = .ok cpuSlab ∧ lockless system cache cpuSlab = .ok walk ∧
          sizesOf cache after = (sizesOf cache before).set cpu (countedObjects walk) := by
  cases found : cache.cpuSlab cpu with
  | error error =>
      simp only [scanCpu] at ran
      rw [found] at ran
      cases ran
  | ok cpuSlab =>
      simp only [scanCpu] at ran
      rw [found] at ran
      rcases run_bind_ok ran with ⟨_, first, read, ran⟩
      cases read
      rcases run_bind_ok ran with ⟨_, listed, freelist, ran⟩
      rcases run_bind_ok ran with ⟨_, held, active, ran⟩
      rcases scanFreelist_counts freelist with ⟨inside, walk, walked, same⟩
      refine ⟨inside, cpuSlab, walk, rfl, walked, ?_⟩
      rw [← same]
      exact ((scanPartial_sizes headed level cpu fuel cpuSlab).ok ran).trans
        ((scanActive_sizes headed level cpu cpuSlab).ok active)

/-- A scan that returns has found a place for every processor, and has written the
sizes of the chains there. -/
theorem scan_counts {cpus : List Nat} {before after : SlubWorld}
    (ran : (cpus.forM (scanCpu system cache header level fuel true)).run before = .ok ⟨⟩ after) :
    (sizesOf cache after).length = (sizesOf cache before).length ∧
      (forall cpu, cpu ∈ cpus -> cpu < (sizesOf cache before).length ∧
        RecordsSize system cache (sizesOf cache after) cpu) ∧
      forall cpu, cpu ∉ cpus -> (sizesOf cache after)[cpu]? = (sizesOf cache before)[cpu]? := by
  induction cpus generalizing before with
  | nil =>
      cases ran
      exact ⟨rfl, fun _ member => absurd member List.not_mem_nil, fun _ _ => rfl⟩
  | cons cpu rest inductionHypothesis =>
      rcases run_bind_ok ran with ⟨_, middle, scanned, ran⟩
      rcases scanCpu_counts headed scanned with ⟨inside, cpuSlab, walk, found, walked, written⟩
      rcases inductionHypothesis ran with ⟨places, recorded, others⟩
      have length : (sizesOf cache middle).length = (sizesOf cache before).length := by
        rw [written, List.length_set]
      refine ⟨places.trans length, ?_, ?_⟩
      · intro other member
        rcases List.mem_cons.mp member with rfl | later
        · refine ⟨inside, ?_⟩
          by_cases again : other ∈ rest
          · exact (recorded other again).2
          · refine ⟨cpuSlab, walk, found, walked, ?_⟩
            rw [others other again, written, List.getElem?_set_self inside]
        · rw [← length]
          exact recorded other later
      · intro other absent
        rw [List.mem_cons, not_or] at absent
        rw [others other absent.2, written, List.getElem?_set_ne (Ne.symm absent.1)]

end Scan

/-- `long_header` leaves the sizes of a cache alone of which slabs are known. -/
theorem longHeader_stays (system : SlubSystem) (cache : KmemCacheSLUB) (fuel : Nat)
    (slab : SlabSLUB) : Evolves (SizesStay cache) (longHeader system fuel slab) :=
  slubProcessOnce_stays system cache slab.kmemCache fuel

/-- The first scan of a new cache looks for places in the list of the sizes only where
there are such places, and if it returns, each online processor has its size. -/
structure SizesSafe (system : SlubSystem) (cache : KmemCacheSLUB) (fuel level : Nat)
    (world : SlubWorld) : Prop where
  inside : forall before cpu rest, system.cpusOnline = before ++ cpu :: rest ->
    forall reached, (before.forM (scanCpu system cache (longHeader system fuel) level fuel
      true)).run world = .ok ⟨⟩ reached ->
    forall cpuSlab, cache.cpuSlab cpu = .ok cpuSlab ->
    forall size counted, (populateCpuFreelist system cache cpu cpuSlab).run reached =
      .ok size counted ->
    cpu < (sizesOf cache counted).length
  recorded : forall after, (processPercpu system cache (longHeader system fuel) level fuel).run world =
      .ok ⟨⟩ after ->
    forall cpu, cpu ∈ system.cpusOnline -> RecordsSize system cache (sizesOf cache after) cpu

section Fresh

variable {fuel level : Nat} {world : SlubWorld}
  (fresh : world.tables cache.address = freshTables system)

include fresh

/-- The first scan fills in the list. -/
theorem processPercpu_fresh :
    (processPercpu system cache (longHeader system fuel) level fuel).run world =
      (system.cpusOnline.forM (scanCpu system cache (longHeader system fuel) level fuel
        true)).run world := by
  simp only [processPercpu]
  rw [tables_bind, fresh]
  exact congrArg (fun scan : SlubM PUnit => scan.run world)
    (if_neg fun both => Bool.noConfusion (And.left both))

theorem sizesOf_fresh : (sizesOf cache world).length = system.cpusOnline.length := by
  simp only [sizesOf]
  rw [fresh]
  exact List.length_replicate

/-- A scan that returns has found a place for every processor. -/
theorem places_of_processPercpu {after : SlubWorld}
    (ran : (processPercpu system cache (longHeader system fuel) level fuel).run world =
      .ok ⟨⟩ after) {cpu : Nat} (online : cpu ∈ system.cpusOnline) :
    cpu < system.cpusOnline.length := by
  rw [processPercpu_fresh fresh] at ran
  have counts := scan_counts (longHeader_stays system cache fuel) ran
  rw [← sizesOf_fresh fresh]
  exact (counts.2.1 cpu online).1

/-- With a place for every processor the scan is safe. -/
theorem sizesSafe_of_places
    (places : forall cpu, cpu ∈ system.cpusOnline -> cpu < system.cpusOnline.length) :
    SizesSafe system cache fuel level world := by
  constructor
  · intro before cpu rest split reached ran cpuSlab _ size counted populated
    have scanned := (scan_counts (longHeader_stays system cache fuel) ran).1
    rw [(populateCpuFreelist_counts populated).2, scanned, sizesOf_fresh fresh]
    apply places
    rw [split]
    exact List.mem_append_right before List.mem_cons_self
  · intro after ran cpu online
    rw [processPercpu_fresh fresh] at ran
    exact ((scan_counts (longHeader_stays system cache fuel) ran).2.1 cpu online).2

end Fresh

/-! ## Processors with nothing on them -/

/-- A processor without a chain and without slabs. -/
def idleCpu : KmemCacheCpu :=
  ⟨.ok 0, .ok 0, .ok 0⟩

/-- A cache of which no processor holds anything. -/
def idleCache : KmemCacheSLUB where
  name := "idle"
  address := 0x1000
  size := 64
  flags := 0
  fpOffset := 0
  redLeftPadField := 0
  inuse := 64
  cpuSlab := fun _ => .ok idleCpu
  nodelist := fun _ => .ok none

theorem idleCache_scanned {header : SlabSLUB -> SlubM PUnit} {level fuel : Nat} {cpus : List Nat}
    (world : SlubWorld) (places : forall cpu, cpu ∈ cpus -> cpu < (sizesOf idleCache world).length) :
    Exists fun reached : SlubWorld =>
      (cpus.forM (scanCpu system idleCache header level fuel true)).run world = .ok ⟨⟩ reached ∧
        (sizesOf idleCache reached).length = (sizesOf idleCache world).length := by
  induction cpus generalizing world with
  | nil => exact ⟨world, rfl, rfl⟩
  | cons cpu rest inductionHypothesis =>
      let middle := world.update idleCache.address (resized cpu 0)
      have length : (sizesOf idleCache middle).length = (sizesOf idleCache world).length := by
        simp only [sizesOf]
        rw [SlubWorld.update_tables_self]
        exact List.length_set
      have first : (scanCpu system idleCache header level fuel true cpu).run world =
          .ok ⟨⟩ middle := by
        have written : (setSize idleCache cpu 0).run world = .ok ⟨⟩ middle := by
          simp only [setSize]
          rw [tables_bind]
          exact congrArg (fun procedure : SlubM PUnit => procedure.run world)
            (if_pos (places cpu List.mem_cons_self))
        change (setSize idleCache cpu 0 >>= fun _ => pure ⟨⟩ : SlubM PUnit).run world = _
        rw [EStateM.run_bind, written]
        rfl
      have later : forall other, other ∈ rest -> other < (sizesOf idleCache middle).length := by
        intro other member
        rw [length]
        exact places other (List.mem_cons_of_mem cpu member)
      rcases inductionHypothesis middle later with ⟨reached, ran, same⟩
      refine ⟨reached, ?_, same.trans length⟩
      change (scanCpu system idleCache header level fuel true cpu >>= _ : SlubM PUnit).run world = _
      rw [EStateM.run_bind, first]
      exact ran

/-! ## The masks that are safe -/

/-- A list with a number that is no place in it has a first such number. -/
theorem exists_first_outside {cpus : List Nat} (outside : ¬ forall cpu, cpu ∈ cpus -> cpu < cpus.length) :
    Exists fun before : List Nat => Exists fun cpu : Nat => Exists fun rest : List Nat =>
      cpus = before ++ cpu :: rest ∧ cpus.length ≤ cpu ∧
        forall other, other ∈ before -> other < cpus.length := by
  cases found : cpus.find? fun cpu => decide (cpus.length ≤ cpu) with
  | none =>
      rw [List.find?_eq_none] at found
      refine False.elim (outside fun cpu member => ?_)
      exact Nat.lt_of_not_le fun beyond => found cpu member (decide_eq_true beyond)
  | some cpu =>
      rcases List.find?_eq_some_iff_append.mp found with ⟨beyond, before, rest, split, inside⟩
      refine ⟨before, cpu, rest, split, of_decide_eq_true beyond, fun other member => ?_⟩
      have placed := inside other member
      rw [Bool.not_eq_true', decide_eq_false_iff_not] at placed
      exact Nat.lt_of_not_le placed

/-- Without a place for every processor the scan of an idle cache looks outside the
list. -/
theorem idleCache_unsafe {system : SlubSystem} {fuel level : Nat} {world : SlubWorld}
    (fresh : world.tables idleCache.address = freshTables system)
    (outside : ¬ forall cpu, cpu ∈ system.cpusOnline -> cpu < system.cpusOnline.length) :
    ¬ SizesSafe system idleCache fuel level world := by
  intro safe
  rcases exists_first_outside outside with ⟨before, cpu, rest, split, beyond, placed⟩
  rw [← sizesOf_fresh fresh] at beyond placed
  rcases idleCache_scanned world placed with ⟨reached, ran, length⟩
  have counted : (populateCpuFreelist system idleCache cpu idleCpu).run reached = .ok 0 reached := rfl
  have inside := safe.inside before cpu rest split reached ran idleCpu rfl 0 reached counted
  rw [length] at inside
  exact absurd beyond (Nat.not_le.mpr inside)

/-- The first scans of all caches are safe with an online mask exactly if no number is
missing in it below that of an online processor. -/
theorem sizes_safe_iff_gapless {cls cpus : TypesCPUClass} {bits : Bitmap}
    (read : cls.setupOnlineMask bits = .ok cpus) :
    (forall (system : SlubSystem) (cache : KmemCacheSLUB) (fuel level : Nat) (world : SlubWorld),
      system.cpusOnline = cpus.cpusOnline -> world.tables cache.address = freshTables system ->
        SizesSafe system cache fuel level world) <->
      TypesCPUClass.Gapless bits := by
  rw [TypesCPUClass.gapless_iff (TypesCPUClass.setupOnlineMask_ok read)]
  constructor
  · intro safe
    by_contra outside
    let system := SlubSystem.single idleCache cpus.cpusOnline [] []
    let world : SlubWorld := ⟨fun _ => freshTables system, []⟩
    exact idleCache_unsafe rfl outside (safe system idleCache 0 0 world rfl rfl)
  · intro places system cache fuel level world online fresh
    apply sizesSafe_of_places fresh
    rw [online]
    exact places

/-- With a number missing no first scan returns at all. -/
theorem processPercpu_never_returns {cls cpus : TypesCPUClass} {bits : Bitmap}
    (read : cls.setupOnlineMask bits = .ok cpus) (gaps : ¬ TypesCPUClass.Gapless bits)
    {system : SlubSystem} {cache : KmemCacheSLUB} {fuel level : Nat} {world : SlubWorld}
    (online : system.cpusOnline = cpus.cpusOnline)
    (fresh : world.tables cache.address = freshTables system) (after : SlubWorld) :
    (processPercpu system cache (longHeader system fuel) level fuel).run world ≠ .ok ⟨⟩ after := by
  intro ran
  apply gaps
  rw [TypesCPUClass.gapless_iff (TypesCPUClass.setupOnlineMask_ok read)]
  intro cpu member
  rw [← online] at member ⊢
  exact places_of_processPercpu fresh ran member

theorem oneWordMask_read (word : Word) :
    ({} : TypesCPUClass).setupOnlineMask (oneWordMask word) =
      .ok { cpusOnline := (oneWordMask word).setBits 64 } := by
  simp only [TypesCPUClass.setupOnlineMask]
  rw [maskBits_oneWordMask]
  rfl

/-- The processors 0 and 1 are online. -/
theorem sizes_safe_iff_gapless_twoCpus :
    (forall (system : SlubSystem) (cache : KmemCacheSLUB) (fuel level : Nat) (world : SlubWorld),
      system.cpusOnline = (oneWordMask 3#64).setBits 64 ->
        world.tables cache.address = freshTables system ->
          SizesSafe system cache fuel level world) <->
      TypesCPUClass.Gapless (oneWordMask 3#64) :=
  sizes_safe_iff_gapless (oneWordMask_read 3#64)

/-- The processors 0 and 2 are online. -/
theorem sizes_unsafe_with_gap :
    ({} : TypesCPUClass).setupOnlineMask (oneWordMask 5#64) = .ok { cpusOnline := [0, 2] } ∧
      ¬ SizesSafe (SlubSystem.single idleCache [0, 2] [] []) idleCache 0 0
        ⟨fun _ => freshTables (SlubSystem.single idleCache [0, 2] [] []), []⟩ ∧
      Exists fun after : SlubWorld => (processPercpu (SlubSystem.single idleCache [0, 2] [] [])
        idleCache (longHeader (SlubSystem.single idleCache [0, 2] [] []) 0) 0 0).run
          ⟨fun _ => freshTables (SlubSystem.single idleCache [0, 2] [] []), []⟩ =
            .error (.raised .indexError) after := by
  refine ⟨?_, idleCache_unsafe rfl (by decide), _, rfl⟩
  rw [oneWordMask_read]
  exact congrArg (fun online => Except.ok (TypesCPUClass.mk online [])) (by decide)

end KmemCacheSLUB
end Slab
end CrashPython

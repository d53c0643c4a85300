import CrashPython.Slab.SlubContents

namespace CrashPython
namespace Slab
namespace KmemCacheSLUB

open Library Types

/-!
# Queries after an aborted query

The scan fills in the dictionaries of a cache as long as no slab is known.  A
query that is left by a failing read in the course of the scan leaves behind what
it has recorded.  If it has recorded a slab, later queries take the scan for
done.

A run is a sequence of queries on one cache.  Each of them meets memory as it can
be read at that time, which may be less than what is there.  The dictionaries can
be relied upon in every run in which no scan is aborted after its first slab.
-/

/-- The queries on a cache and its slabs. -/
inductive SlubQuery where
  | objInUse (slab : SlabSLUB) (addr : Nat)
  | slabRole (slab : SlabSLUB)
  | listAll (verbosity : Nat)
  | checkAll

namespace SlubQuery

/-- The print level of the pass that a query makes. -/
def level : SlubQuery -> Nat
  | .objInUse _ _ => 0
  | .slabRole _ => 0
  | .listAll verbosity => verbosity
  | .checkAll => 1

/-- Ask the query of a cache. -/
def ask (system : SlubSystem) (cache : KmemCacheSLUB) (fuel : Nat) : SlubQuery -> SlubM PUnit
  | .objInUse slab addr =>
      discard (SlabSLUB.objInUse system fuel { slab with kmemCache := cache } addr)
  | .slabRole slab => discard (SlabSLUB.slabRole system fuel { slab with kmemCache := cache })
  | .listAll verbosity => KmemCacheSLUB.listAll system cache fuel verbosity
  | .checkAll => KmemCacheSLUB.checkAll system cache fuel

end SlubQuery

/-- What can be read at some time is what is in memory. -/
structure Reads (system : SlubSystem) (cache : KmemCacheSLUB) (memory : SlubSystem)
    (original : KmemCacheSLUB) : Prop where
  address : cache.address = original.address
  fpOffset : cache.fpOffset = original.fpOffset
  known : system.caches cache.address = some cache
  cpusOnline : system.cpusOnline = memory.cpusOnline
  cpuSlab : forall cpu found, cache.cpuSlab cpu = .ok found ->
    Exists fun full : KmemCacheCpu => original.cpuSlab cpu = .ok full ∧
      (forall value, found.freelist = .ok value -> full.freelist = .ok value) ∧
      (forall value, found.page = .ok value -> full.page = .ok value) ∧
      forall value, found.onPartial = .ok value -> full.onPartial = .ok value
  objects : forall page value, (system.pages page).objects = .ok value ->
    (memory.pages page).objects = .ok value
  next : forall page value, (system.pages page).next = .ok value ->
    (memory.pages page).next = .ok value
  words : forall word value, system.words word = .ok value -> memory.words word = .ok value

variable {system memory : SlubSystem} {cache original : KmemCacheSLUB}

/-- A chain that was read is in memory. -/
theorem Reads.lockless (reads : Reads system cache memory original)
    {found full : KmemCacheCpu}
    (freelist : forall value, found.freelist = .ok value -> full.freelist = .ok value)
    (page : forall value, found.page = .ok value -> full.page = .ok value)
    {objects : List Nat} {ending : ChainEnd GdbError}
    (walked : KmemCacheSLUB.lockless system cache found = .ok (objects, ending))
    (unfailed : forall error, ending ≠ .failed error) :
    KmemCacheSLUB.lockless memory original full = .ok (objects, ending) := by
  have links : forall obj next, SlabSLUB.freePointer system cache obj = .ok next ->
      SlabSLUB.freePointer memory original obj = .ok next := by
    intro obj next linked
    simp only [SlabSLUB.freePointer] at linked ⊢
    rw [← reads.fpOffset]
    exact reads.words _ next linked
  rcases except_bind_ok.mp walked with ⟨first, start, walked⟩
  refine except_bind_ok.mpr ⟨first, freelist first start, ?_⟩
  by_cases null : first = 0
  · rw [if_pos null] at walked ⊢
    exact walked
  · rw [if_neg null] at walked ⊢
    rcases except_bind_ok.mp walked with ⟨slab, active, walked⟩
    rcases except_bind_ok.mp walked with ⟨nrObjects, counted, walked⟩
    refine except_bind_ok.mpr ⟨slab, page slab active, except_bind_ok.mpr
      ⟨nrObjects, reads.objects slab nrObjects counted, ?_⟩⟩
    have walk : chainWalk (SlabSLUB.freePointer system cache) nrObjects first = (objects, ending) :=
      Except.ok.inj walked
    have readable : forall error,
        (chainWalk (SlabSLUB.freePointer system cache) nrObjects first).2 ≠ .failed error := by
      rw [walk]
      exact unfailed
    rw [chainWalk_wider links readable, walk]
    rfl

/-- What covers the processors as they can be read covers them. -/
theorem Reads.covers (reads : Reads system cache memory original) {tables : SlubTables}
    (covers : Covers system cache tables) : Covers memory original tables := by
  intro cpu online
  rw [← reads.cpusOnline] at online
  rcases covers cpu online with ⟨objects, active, slabs, ⟨found, read, ⟨ending, walked, unfailed⟩,
    page, first, started, chain⟩, cached, held, listed⟩
  rcases reads.cpuSlab cpu found read with ⟨full, there, freelist, active', onPartial⟩
  refine ⟨objects, active, slabs, ⟨full, there, ⟨ending, ?_, unfailed⟩, active' _ page, first,
    onPartial _ started, chain.wider reads.next⟩, cached, held, listed⟩
  exact reads.lockless freelist active' walked unfailed

/-! ## The view of an aborted scan -/

/-- Whether the cache is processed, as long as no slab is known. -/
def flagView (cache : KmemCacheSLUB) (world : SlubWorld) : Bool :=
  (world.tables cache.address).cpuSlabs.isEmpty && (world.tables cache.address).processed

/-- The portion that the scan fills in and the flag. -/
def scanView (cache : KmemCacheSLUB) (world : SlubWorld) : SlubTables × Bool :=
  (percpuView cache world, flagView cache world)

/-- The actions of the scan.  The flag is not looked at any more once a slab is
known. -/
def performScan (action : ScanAction) (view : SlubTables × Bool) : SlubTables × Bool :=
  (performPercpu action view.1, match action with
    | .hold _ _ => false
    | _ => view.2)

theorem flagView_known {world : SlubWorld} (known : (world.tables cache.address).cpuSlabs ≠ []) :
    flagView cache world = false := by
  simp only [flagView]
  rw [List.isEmpty_eq_false_iff.mpr known]
  rfl

/-- The flag does not show where slabs are known. -/
theorem scanView_known {before after : SlubWorld} (known : (percpuView cache before).cpuSlabs ≠ [])
    (same : percpuView cache after = percpuView cache before) :
    scanView cache after = scanView cache before := by
  apply Prod.ext same
  have later : (percpuView cache after).cpuSlabs ≠ [] := by
    rw [same]
    exact known
  exact (flagView_known later).trans (flagView_known known).symm

theorem flagView_update {change : SlubTables -> SlubTables} (world : SlubWorld)
    (slabs : forall tables, (change tables).cpuSlabs = tables.cpuSlabs)
    (flag : forall tables, (change tables).processed = tables.processed) :
    flagView cache (world.update cache.address change) = flagView cache world := by
  simp only [flagView]
  rw [SlubWorld.update_tables_self, slabs, flag]

theorem scan_faithful (system : SlubSystem) (cache : KmemCacheSLUB) :
    Faithful system cache (scanView cache) performScan := by
  have portion := percpu_faithful system cache
  constructor
  · intro cpu obj world
    apply Prod.ext (portion.record cpu obj world)
    simp only [recordObject]
    split
    · rfl
    · exact flagView_update world (fun _ => rfl) (fun _ => rfl)
  · intro cpu size world
    apply Prod.ext (portion.resize cpu size world)
    exact flagView_update world (fun _ => rfl) (fun _ => rfl)
  · intro slab place world
    apply Prod.ext (portion.hold slab place world)
    have after := addPercpuSlub_tables system cache slab place world
    apply flagView_known
    rw [after]
    cases known : (world.tables cache.address).cpuSlabs.lookup slab.address with
    | some other => exact List.ne_nil_of_mem (mem_of_lookup known)
    | none =>
        simp only [SlubWorld.update_tables_self, enterSlab]
        exact List.append_ne_nil_of_right_ne_nil _ (List.cons_ne_nil _ _)
  · intro report world
    rfl

/-- A scan of a known cache in this view, at any print level. -/
theorem scan_shows {fuel : Nat} {start : Nat -> SlubTables}
    (known : system.caches cache.address = some cache) (level : Nat) :
    Shows system cache (scanView cache) performScan (longHeader system fuel) level
      (headerOutcome system cache fuel start) (Undisturbed system cache fuel start) where
  faithful := scan_faithful system cache
  elsewhere := undisturbed_elsewhere
  printed := by
    intro _ slab world
    simp only [scanView, percpuView, flagView]
    rw [populateFree_tables]
  headed := by
    intro printing slab registered filled held world ready
    have shows : Shows system cache (percpuView cache) performPercpu (longHeader system fuel) level
        (headerOutcome system cache fuel start) (Undisturbed system cache fuel start) :=
      percpu_shows known level
    have slabs : (percpuView cache world).cpuSlabs ≠ [] := by
      have same := congrArg SlubTables.cpuSlabs ready.2
      exact same ▸ held
    have run := shows.headed printing slab registered filled held world ready
    cases ended : headerOutcome system cache fuel start slab.kmemCache with
    | error error =>
        rw [ended] at run
        rcases run with ⟨after, ran, same⟩
        exact ⟨after, ran, scanView_known slabs same⟩
    | ok done =>
        rw [ended] at run
        rcases run with ⟨value, after, ran, same, finished⟩
        exact ⟨value, after, ran, scanView_known slabs same, finished⟩

theorem performed_scan (actions : List ScanAction) (view : SlubTables × Bool) :
    (performed performScan actions view).1 = performed performPercpu actions view.1 ∧
      (heldPages actions = [] -> (performed performScan actions view).2 = view.2) := by
  simp only [performed]
  induction actions generalizing view with
  | nil => exact ⟨rfl, fun _ => rfl⟩
  | cons action rest inductionHypothesis =>
      have later := inductionHypothesis (performScan action view)
      refine ⟨later.1, ?_⟩
      intro none
      have split : action :: rest = [action] ++ rest := rfl
      rw [split, heldPages_append, List.append_eq_nil_iff] at none
      rw [List.foldl_cons, later.2 none.2]
      cases action with
      | record cpu obj => rfl
      | resize cpu size => rfl
      | report report => rfl
      | hold slab place => exact absurd none.1 (List.cons_ne_nil _ _)

/-! ## The dictionaries only grow -/

/-- The dictionaries of the cache grow. -/
def GrowsAt (cache : KmemCacheSLUB) (before after : SlubWorld) : Prop :=
  Grows (before.tables cache.address) (after.tables cache.address)

theorem growsAt_accumulates (cache : KmemCacheSLUB) : Accumulates (GrowsAt cache) :=
  ⟨fun _ => Grows.refl _, fun early late => early.trans late⟩

theorem growsAt_of_percpu {before after : SlubWorld}
    (grows : Grows (percpuView cache before) (percpuView cache after)) :
    GrowsAt cache before after :=
  ⟨grows.slabs, grows.freelists⟩

/-- `slub_process_once` for any cache. -/
theorem slubProcessOnce_grows (system : SlubSystem) (cache other : KmemCacheSLUB) (fuel : Nat) :
    Evolves (GrowsAt cache) (slubProcessOnce system fuel other) := by
  intro world
  have shown := (slubProcessOnce_enacts system other fuel (world.tables other.address)).shown rfl
  rw [performed_local] at shown
  by_cases own : cache.address = other.address
  · have portion : percpuView other (finalState ((slubProcessOnce system fuel other).run world)) =
        performed performPercpu (passScript system other 0 fuel
          (world.tables other.address)).actions (percpuView other world) :=
      congrArg Prod.fst shown
    have grows := performed_grows (passScript system other 0 fuel
      (world.tables other.address)).actions (percpuView other world)
    rw [← portion] at grows
    simp only [GrowsAt]
    rw [own]
    exact ⟨grows.slabs, grows.freelists⟩
  · simp only [GrowsAt]
    rw [tables_of_othersView (congrArg Prod.snd shown) own]
    exact Grows.refl _

/-- A relation that overlooks reports, the places of slabs on the lists of the nodes
and the flag `processed`. -/
structure Overlooks (cache : KmemCacheSLUB) (relation : SlubWorld -> SlubWorld -> Prop) : Prop where
  accumulates : Accumulates relation
  unchanged : forall {before after : SlubWorld}, after.tables = before.tables -> relation before after
  placed : forall (world : SlubWorld) (places : List (Nat × NodePlace) -> List (Nat × NodePlace)),
    relation world (world.update cache.address fun tables =>
      { tables with nodeSlabs := places tables.nodeSlabs })
  flagged : forall {before after : SlubWorld}, after.tables =
    (before.update cache.address fun tables => { tables with processed := true }).tables ->
      relation before after

theorem growsAt_overlooks (cache : KmemCacheSLUB) : Overlooks cache (GrowsAt cache) where
  accumulates := growsAt_accumulates cache
  unchanged := by
    intro before after same
    simp only [GrowsAt]
    rw [same]
    exact Grows.refl _
  placed := by
    intro world places
    simp only [GrowsAt]
    rw [SlubWorld.update_tables_self]
    exact ⟨List.prefix_rfl, List.prefix_rfl⟩
  flagged := by
    intro before after same
    simp only [GrowsAt]
    rw [same, SlubWorld.update_tables_self]
    exact ⟨List.prefix_rfl, List.prefix_rfl⟩

section Finish

variable {relation : SlubWorld -> SlubWorld -> Prop} (overlooks : Overlooks cache relation)
variable {header : SlabSLUB -> SlubM PUnit} (headed : forall slab, Evolves relation (header slab))

include overlooks

theorem reportIf_evolves {condition : Prop} [Decidable condition] (report : SlubReport) :
    Evolves relation
      (if condition then modify (SlubWorld.prErr report) else pure ⟨⟩ : SlubM PUnit) := by
  split
  · exact Evolves.update fun world => overlooks.unchanged rfl
  · exact Evolves.returns overlooks.accumulates _

theorem warnFrozen_evolves (slab : SlabSLUB) (expected : Nat) (place : FrozenPlace) :
    Evolves relation (SlabSLUB.warnFrozen system slab expected place) := by
  apply Evolves.reads overlooks.accumulates
  intro frozen
  exact reportIf_evolves overlooks _

theorem populateFree_evolves (slab : SlabSLUB) :
    Evolves relation (SlabSLUB.populateFree system slab) :=
  fun world => overlooks.unchanged (populateFree_tables system slab world)

/-- A step that is taken from some print level on. -/
theorem fromLevel_evolves {condition : Prop} [Decidable condition] {step : SlubM PUnit}
    (evolves : Evolves relation step) :
    Evolves relation (if condition then step else pure ⟨⟩) := by
  split
  · exact evolves
  · exact Evolves.returns overlooks.accumulates _

include headed

theorem visitNodeSlab_evolves (level : Nat) (place : NodePlace) (listHead : Nat) :
    Evolves relation (visitNodeSlab system cache header level place listHead) := by
  have accumulates := overlooks.accumulates
  apply Evolves.reads accumulates
  intro slab
  apply Evolves.andThen accumulates (fromLevel_evolves overlooks (headed slab))
  intro _
  apply Evolves.andThen accumulates
  · exact fromLevel_evolves overlooks (populateFree_evolves overlooks slab).discarding
  intro _
  apply Evolves.andThen accumulates (warnFrozen_evolves overlooks slab 0 (.node place))
  intro _
  apply Evolves.andThen accumulates
  · apply Evolves.andThen accumulates
    · exact accumulates.refl
    intro known
    split
    · exact Evolves.returns accumulates _
    · exact Evolves.update fun world => overlooks.placed world (dictSet slab.address place)
  intro _
  exact Evolves.returns accumulates slab

/-- A walk along a list of a node, whatever is counted. -/
theorem nodeList_evolves {Counted : Type} (level : Nat) (place : NodePlace)
    (ending : Ending ListError) (heads : List Nat) (count : Counted -> SlabSLUB -> Counted)
    (carried : Counted) :
    Evolves relation (do
      let counted <- heads.foldlM (fun counted listHead => do
        let slab <- visitNodeSlab system cache header level place listHead
        return count counted slab) carried
      endWalk ending
      return counted) := by
  have accumulates := overlooks.accumulates
  apply Evolves.andThen accumulates
  · apply Evolves.fold accumulates
    intro counted listHead
    apply Evolves.andThen accumulates (visitNodeSlab_evolves overlooks headed level place listHead)
    intro slab
    exact Evolves.returns accumulates _
  intro counted
  apply Evolves.andThen accumulates
  · cases ending with
    | completed => exact accumulates.refl
    | raised error => exact accumulates.refl
  intro _
  exact Evolves.returns accumulates counted

theorem processNid_evolves (level : Nat) (totals : NodeTotals) (nid : Nat) :
    Evolves relation (processNid system cache header level totals nid) := by
  have accumulates := overlooks.accumulates
  apply Evolves.reads accumulates
  intro node
  cases node with
  | none => exact Evolves.returns accumulates totals
  | some node =>
      apply Evolves.reads accumulates
      intro nrSlabs
      apply Evolves.reads accumulates
      intro nrObjs
      apply Evolves.reads accumulates
      intro expected
      apply Evolves.andThen accumulates
      · exact nodeList_evolves overlooks headed level (.onPartial nid) _ _
          (fun counted slab => (counted.1 + 1, counted.2 + slab.nrFree)) _
      intro counted
      apply Evolves.andThen accumulates (reportIf_evolves overlooks _)
      intro _
      apply Evolves.andThen accumulates
      · exact nodeList_evolves overlooks headed level (.full nid) _ _
          (fun counted slab => counted + 1) _
      intro found
      apply Evolves.andThen accumulates (reportIf_evolves overlooks _)
      intro _
      exact Evolves.returns accumulates _

/-- What comes after the scan. -/
theorem finish_evolves (level : Nat) : Evolves relation (finish system cache header level) := by
  have accumulates := overlooks.accumulates
  apply Evolves.andThen accumulates
  · exact accumulates.refl
  intro scanned
  apply Evolves.reads accumulates
  intro nids
  apply Evolves.andThen accumulates
  · exact Evolves.fold accumulates (processNid_evolves overlooks headed level) _
  intro totals world
  rcases closing_returns cache totals world with ⟨value, after, ran, same⟩
  rw [ran]
  exact overlooks.flagged same

end Finish

/-! ## One pass -/

/-- Dictionaries that are taken for complete cover every processor. -/
def Trusted (memory : SlubSystem) (original : KmemCacheSLUB) (tables : SlubTables) : Prop :=
  tables.cpuSlabs ≠ [] ∨ tables.processed = true -> Covers memory original tables

/-- Code that returns leaves dictionaries that cover every processor, and code that
is left by an exception does not leave dictionaries that are wrongly taken for
complete. -/
def Provides (memory : SlubSystem) (original cache : KmemCacheSLUB) {Value : Type}
    (procedure : SlubM Value) (world : SlubWorld) : Prop :=
  match procedure.run world with
  | .ok _ after => Covers memory original (after.tables cache.address)
  | .error _ after => Trusted memory original (after.tables cache.address)

/-- Dictionaries that grow go on covering every processor. -/
theorem provides_of_grows {Value : Type} {procedure : SlubM Value} {world : SlubWorld}
    (covers : Covers memory original (world.tables cache.address))
    (grows : GrowsAt cache world (finalState (procedure.run world))) :
    Provides memory original cache procedure world := by
  have later := Covers.grows covers grows
  simp only [Provides]
  cases run : procedure.run world with
  | ok value after =>
      rw [run] at later
      exact later
  | error error after =>
      rw [run] at later
      exact fun _ => later

theorem Provides.andThen {Value Result : Type} {first : SlubM Value}
    {second : Value -> SlubM Result} {world : SlubWorld}
    (early : Provides memory original cache first world)
    (late : forall value, Evolves (GrowsAt cache) (second value)) :
    Provides memory original cache (first >>= second) world := by
  simp only [Provides] at early ⊢
  rw [EStateM.run_bind]
  cases run : first.run world with
  | error error reached =>
      rw [run] at early
      exact early
  | ok value reached =>
      rw [run] at early
      exact provides_of_grows early (late value reached)

theorem Provides.discarding {Value : Type} {procedure : SlubM Value} {world : SlubWorld}
    (provides : Provides memory original cache procedure world) :
    Provides memory original cache (discard procedure) world := by
  have same : (discard procedure : SlubM PUnit) = procedure >>= fun _ => pure PUnit.unit :=
    map_eq_pure_bind (fun _ => PUnit.unit) procedure
  rw [same]
  exact provides.andThen fun _ => Evolves.returns (growsAt_accumulates cache) _

section Pass

variable {header : SlabSLUB -> SlubM PUnit} {level fuel : Nat}
  {outcome : KmemCacheSLUB -> Except Halt PUnit} {aside : (Nat -> SlubTables) -> Prop}
  {world : SlubWorld}

section Scan

variable (shows : Shows system cache (scanView cache) performScan header level outcome aside)
  (others : aside world.tables)

include shows others

/-- The portion that the scan fills in, after the scan. -/
theorem processPercpu_percpu :
    percpuView cache (finalState ((processPercpu system cache header level fuel).run world)) =
      performed performPercpu (percpuScript system cache outcome level fuel
        (world.tables cache.address)).actions (percpuView cache world) := by
  have shown := (processPercpu_enacts shows fuel world.tables others).shown rfl
  have portion := congrArg Prod.fst shown
  rw [(performed_scan _ _).1] at portion
  exact portion

theorem processPercpu_grows :
    GrowsAt cache world (finalState ((processPercpu system cache header level fuel).run world)) := by
  apply growsAt_of_percpu
  rw [processPercpu_percpu shows others]
  exact performed_grows _ _

/-- A scan that came to its end covers every processor. -/
theorem processPercpu_covers (empty : (world.tables cache.address).cpuSlabs = [])
    (scans : ¬ ((world.tables cache.address).cpuSlabs.isEmpty = false ∧ level = 0))
    (ended : (scanScript system cache (world.tables cache.address).cpuFreelistsSizes.length outcome
      level fuel true).ending = .ok ⟨⟩) :
    Covers system cache ((finalState ((processPercpu system cache header level fuel).run
      world)).tables cache.address) := by
  have filling : (world.tables cache.address).cpuSlabs.isEmpty = true :=
    List.isEmpty_iff.mpr empty
  have portion : percpuView cache (finalState
      ((processPercpu system cache header level fuel).run world)) = _ :=
    processPercpu_percpu shows others
  simp only [percpuScript] at portion
  rw [if_neg scans, filling] at portion
  have covers := covers_of_scanScript ended (percpuView cache world)
  rw [← portion] at covers
  exact covers.grows ⟨List.prefix_rfl, List.prefix_rfl⟩

/-- A scan that came to no slab leaves the flag as it was. -/
theorem processPercpu_unheld (empty : (world.tables cache.address).cpuSlabs = [])
    (scans : ¬ ((world.tables cache.address).cpuSlabs.isEmpty = false ∧ level = 0))
    (unheld : heldPages (scanScript system cache
      (world.tables cache.address).cpuFreelistsSizes.length outcome level fuel true).actions = []) :
    ((finalState ((processPercpu system cache header level fuel).run world)).tables
        cache.address).cpuSlabs = [] ∧
      ((finalState ((processPercpu system cache header level fuel).run world)).tables
        cache.address).processed = (world.tables cache.address).processed := by
  have filling : (world.tables cache.address).cpuSlabs.isEmpty = true :=
    List.isEmpty_iff.mpr empty
  have shown := (processPercpu_enacts shows fuel world.tables others).shown rfl
  simp only [percpuScript] at shown
  rw [if_neg scans, filling] at shown
  have scanned := performed_scan (scanScript system cache
    (world.tables cache.address).cpuFreelistsSizes.length outcome level fuel true).actions
    (scanView cache world)
  generalize finalState ((processPercpu system cache header level fuel).run world) = after at shown ⊢
  have portion := (congrArg Prod.fst shown).trans scanned.1
  have flag := (congrArg Prod.snd shown).trans (scanned.2 unheld)
  have none : (after.tables cache.address).cpuSlabs = [] := by
    apply List.eq_nil_iff_forall_not_mem.mpr
    intro entry member
    have key : entry.1 ∈ (after.tables cache.address).cpuSlabs.map Prod.fst :=
      List.mem_map_of_mem member
    have slabs := congrArg SlubTables.cpuSlabs portion
    change (after.tables cache.address).cpuSlabs = _ at slabs
    rw [slabs, (mem_performed _ _ entry.1).2, unheld] at key
    rcases key with before | impossible
    · change entry.1 ∈ (world.tables cache.address).cpuSlabs.map Prod.fst at before
      rw [empty] at before
      cases before
    · cases impossible
  refine ⟨none, ?_⟩
  change flagView cache after = flagView cache world at flag
  simp only [flagView] at flag
  rw [none, empty] at flag
  exact flag

end Scan

/-- The scan that fills in the dictionaries, if it is made, comes to its end or is
left before its first slab. -/
def SparedScan (system : SlubSystem) (cache : KmemCacheSLUB)
    (outcome : KmemCacheSLUB -> Except Halt PUnit) (level fuel : Nat) (known : SlubTables) : Prop :=
  known.cpuSlabs = [] -> ¬ (level = 0 ∧ known.processed = true) ->
    (scanScript system cache known.cpuFreelistsSizes.length outcome level fuel true).ending =
        .ok ⟨⟩ ∨
      heldPages (scanScript system cache known.cpuFreelistsSizes.length outcome level fuel
        true).actions = []

/-- A scan that fills in the dictionaries. -/
theorem processPercpu_fills
    (shows : Shows system cache (scanView cache) performScan header level outcome aside)
    (others : aside world.tables) (reads : Reads system cache memory original)
    (trusted : Trusted memory original (world.tables cache.address))
    (empty : (world.tables cache.address).cpuSlabs = [])
    (busy : ¬ (level = 0 ∧ (world.tables cache.address).processed = true))
    (spared : SparedScan system cache outcome level fuel (world.tables cache.address)) :
    Provides memory original cache (processPercpu system cache header level fuel) world := by
  have scans : ¬ ((world.tables cache.address).cpuSlabs.isEmpty = false ∧ level = 0) := by
    rw [empty]
    exact fun both => Bool.noConfusion both.1
  have complete : (scanScript system cache (world.tables cache.address).cpuFreelistsSizes.length
      outcome level fuel true).ending = .ok ⟨⟩ -> Covers memory original
        ((finalState ((processPercpu system cache header level fuel).run world)).tables
          cache.address) :=
    fun ended => reads.covers (processPercpu_covers shows others empty scans ended)
  have enacts := processPercpu_enacts shows fuel world.tables others
  simp only [Provides]
  cases run : (processPercpu system cache header level fuel).run world with
  | ok value after =>
      rcases enacts.of_ok rfl run with ⟨_, ended, _, _⟩
      simp only [percpuScript] at ended
      rw [if_neg scans, List.isEmpty_iff.mpr empty] at ended
      have covers := complete ended
      rw [run] at covers
      exact covers
  | error error after =>
      rcases spared empty busy with ended | unheld
      · have covers := complete ended
        rw [run] at covers
        exact fun _ => covers
      · have grows : GrowsAt cache world
            (finalState ((processPercpu system cache header level fuel).run world)) :=
          processPercpu_grows shows others
        have kept := processPercpu_unheld shows others empty scans unheld
        rw [run] at kept grows
        rintro (known | processed)
        · exact False.elim (known kept.1)
        · exact (trusted (.inr (kept.2.symm.trans processed))).grows grows

/-- The dictionaries after a pass. -/
theorem processAllWith_provides
    (shows : Shows system cache (scanView cache) performScan header level outcome aside)
    (others : aside world.tables) (headed : forall slab, Evolves (GrowsAt cache) (header slab))
    (reads : Reads system cache memory original)
    (trusted : Trusted memory original (world.tables cache.address))
    (spared : SparedScan system cache outcome level fuel (world.tables cache.address)) :
    Provides memory original cache (processAllWith system cache header level fuel) world := by
  rw [processAllWith_eq]
  change Provides memory original cache (if level = 0 ∧
    (world.tables cache.address).processed = true then pure none
    else processPercpu system cache header level fuel >>= fun _ =>
      finish system cache header level : SlubM (Option Totals)) world
  by_cases idle : level = 0 ∧ (world.tables cache.address).processed = true
  · rw [if_pos idle]
    exact trusted (.inr idle.2)
  · rw [if_neg idle]
    refine Provides.andThen ?_ fun _ =>
      finish_evolves (growsAt_overlooks cache) headed level
    by_cases empty : (world.tables cache.address).cpuSlabs = []
    · exact processPercpu_fills shows others reads trusted empty idle spared
    · exact provides_of_grows (trusted (.inl empty)) (processPercpu_grows shows others)

end Pass

/-! ## Queries -/

/-- A scan at print level 0 prints no header. -/
theorem scan_shows_quiet (system : SlubSystem) (cache : KmemCacheSLUB)
    (header : SlabSLUB -> SlubM PUnit) (outcome : KmemCacheSLUB -> Except Halt PUnit) :
    Shows system cache (scanView cache) performScan header 0 outcome (fun _ => True) where
  faithful := scan_faithful system cache
  elsewhere := fun _ _ _ _ start => start
  printed := fun printing => absurd printing (by omega)
  headed := fun printing => absurd printing (by omega)

/-- A query is a pass, or it fills in the dictionaries where that was not done before, and then
changes them no more than reading free objects does. -/
theorem ask_form (system : SlubSystem) (cache : KmemCacheSLUB) (fuel : Nat) (query : SlubQuery) :
    query.ask system cache fuel = discard (processAll system cache fuel query.level) ∨
      query.level = 0 ∧ Exists fun Value : Type => Exists fun rest : PUnit -> SlubM Value =>
        query.ask system cache fuel = discard (slubProcessOnce system fuel cache >>= rest) ∧
          forall relation, Accumulates relation ->
            (forall slab, Evolves relation (SlabSLUB.populateFree system slab)) ->
              forall value, Evolves relation (rest value) := by
  cases query with
  | objInUse slab addr =>
      refine .inr ⟨rfl, _, _, rfl, ?_⟩
      intro relation accumulates populates _
      apply Evolves.andThen accumulates (populates _)
      intro populated
      split
      · exact Evolves.returns accumulates _
      · apply Evolves.andThen accumulates
        · exact accumulates.refl
        intro known
        split
        · exact Evolves.returns accumulates _
        · exact Evolves.returns accumulates _
  | slabRole slab =>
      refine .inr ⟨rfl, _, _, rfl, ?_⟩
      intro relation accumulates populates _
      apply Evolves.andThen accumulates
      · exact accumulates.refl
      intro found
      split
      · exact Evolves.returns accumulates _
      · exact Evolves.returns accumulates _
      · split
        · exact Evolves.returns accumulates _
        · exact Evolves.returns accumulates _
  | listAll verbosity => exact .inl rfl
  | checkAll => exact .inl rfl

section Ask

variable {fuel : Nat} {world : SlubWorld} (reads : Reads system cache memory original)
  (trusted : Trusted memory original (world.tables cache.address))

include reads trusted

theorem slubProcessOnce_provides {outcome : KmemCacheSLUB -> Except Halt PUnit}
    (spared : SparedScan system cache outcome 0 fuel (world.tables cache.address)) :
    Provides memory original cache (slubProcessOnce system fuel cache) world := by
  change Provides memory original cache (if (world.tables cache.address).processed then pure ⟨⟩
    else discard (processQuietly system fuel cache) : SlubM PUnit) world
  by_cases processed : (world.tables cache.address).processed = true
  · rw [if_pos processed]
    exact trusted (.inr processed)
  · rw [if_neg processed]
    apply Provides.discarding
    exact processAllWith_provides (scan_shows_quiet system cache _ outcome) trivial
      (fun _ => Evolves.returns (growsAt_accumulates cache) _) reads trusted spared

theorem processAll_provides {level : Nat}
    (spared : SparedScan system cache (headerOutcome system cache fuel world.tables) level fuel
      (world.tables cache.address)) :
    Provides memory original cache (processAll system cache fuel level) world :=
  processAllWith_provides (scan_shows reads.known level)
    (undisturbed_initially system cache fuel world.tables)
    (fun slab => slubProcessOnce_grows system cache slab.kmemCache fuel) reads trusted spared

/-- The dictionaries after a query. -/
theorem ask_provides (query : SlubQuery)
    (spared : SparedScan system cache (headerOutcome system cache fuel world.tables) query.level fuel
      (world.tables cache.address)) :
    Provides memory original cache (query.ask system cache fuel) world := by
  rcases ask_form system cache fuel query with pass | ⟨quiet, _, rest, fills, looks⟩
  · rw [pass]
    exact (processAll_provides reads trusted spared).discarding
  · rw [fills]
    rw [quiet] at spared
    apply Provides.discarding
    apply (slubProcessOnce_provides reads trusted spared).andThen
    exact looks _ (growsAt_accumulates cache)
      fun slab => populateFree_evolves (growsAt_overlooks cache) slab

end Ask

/-! ## Runs of queries -/

/-- A query, with memory as it can be read when the query is made. -/
structure SlubTurn where
  system : SlubSystem
  cache : KmemCacheSLUB
  fuel : Nat
  query : SlubQuery

namespace SlubTurn

/-- Make the query. -/
def run (turn : SlubTurn) (world : SlubWorld) : EStateM.Result Halt SlubWorld PUnit :=
  (turn.query.ask turn.system turn.cache turn.fuel).run world

/-- The scan that the query makes in order to fill in the dictionaries, if it makes
one, comes to its end or is left before its first slab. -/
def Spared (turn : SlubTurn) (world : SlubWorld) : Prop :=
  SparedScan turn.system turn.cache
    (headerOutcome turn.system turn.cache turn.fuel world.tables) turn.query.level turn.fuel
    (world.tables turn.cache.address)

end SlubTurn

/-- The states that runs of queries come to, each of which meets its condition.  A
run starts with a cache with which nothing was done. -/
inductive SparedRun (memory : SlubSystem) (original : KmemCacheSLUB) : SlubWorld -> Prop where
  | start {world : SlubWorld} (fresh : world.tables original.address = freshTables memory) :
      SparedRun memory original world
  | turn {world : SlubWorld} (turn : SlubTurn) (run : SparedRun memory original world)
      (reads : Reads turn.system turn.cache memory original) (spared : turn.Spared world) :
      SparedRun memory original (finalState (turn.run world))

/-- In the course of a run, dictionaries that are taken for complete are. -/
theorem SparedRun.trusted {world : SlubWorld} (run : SparedRun memory original world) :
    Trusted memory original (world.tables original.address) := by
  induction run with
  | start fresh =>
      rw [fresh]
      rintro (known | processed)
      · exact absurd rfl known
      · exact Bool.noConfusion processed
  | turn turn run reads spared inductionHypothesis =>
      rename_i world
      rw [← reads.address] at inductionHypothesis ⊢
      have provides := ask_provides reads inductionHypothesis turn.query spared
      simp only [Provides] at provides
      simp only [SlubTurn.run]
      cases ran : (turn.query.ask turn.system turn.cache turn.fuel).run world with
      | ok value after =>
          rw [ran] at provides
          exact fun _ => provides
      | error error after =>
          rw [ran] at provides
          exact provides

/-- In every run in which no filling scan is left between its first slab and its
end, a query that returns does so with dictionaries that cover every processor. -/
theorem queries_cover_unless_scan_cut {world after : SlubWorld}
    (run : SparedRun memory original world) (turn : SlubTurn)
    (reads : Reads turn.system turn.cache memory original) (spared : turn.Spared world)
    (returned : turn.run world = .ok ⟨⟩ after) :
    Covers memory original (after.tables original.address) := by
  have trusted := run.trusted
  rw [← reads.address] at trusted ⊢
  have provides := ask_provides reads trusted turn.query spared
  simp only [Provides] at provides
  simp only [SlubTurn.run] at returned
  rw [returned] at provides
  exact provides

/-- A cache on two processors, of which the first ones can be read.  Each of them
has an active slab of its own. -/
def twoCpus (readable : Nat) : KmemCacheSLUB where
  name := "two"
  address := 16
  size := 64
  flags := 0
  fpOffset := 0
  redLeftPadField := 0
  inuse := 64
  cpuSlab := fun cpu =>
    if cpu < readable then .ok ⟨.ok 0, .ok (4096 * (cpu + 1)), .ok 0⟩
    else .error (.gdb .memoryError)
  nodelist := fun _ => .ok none

/-- Each slab has one object, which is in use. -/
def twoCpusSystem (readable : Nat) : SlubSystem :=
  .single (twoCpus readable) [0, 1]
    [(4096, ⟨.ok 0, .ok 1, .ok 1, .ok 1, .ok 16, .ok 1, .ok 0⟩),
      (8192, ⟨.ok 0, .ok 1, .ok 1, .ok 1, .ok 16, .ok 1, .ok 0⟩)] []

/-- Ask for the role of the slab of the second processor. -/
def twoCpusTurn (readable : Nat) : SlubTurn :=
  ⟨twoCpusSystem readable, twoCpus readable, 1,
    .slabRole ⟨8192, twoCpus readable, 1, 1, ∅, false, false⟩⟩

theorem twoCpus_reads {readable : Nat} (few : readable ≤ 2) :
    Reads (twoCpusTurn readable).system (twoCpusTurn readable).cache (twoCpusSystem 2)
      (twoCpus 2) where
  address := rfl
  fpOffset := rfl
  known := rfl
  cpusOnline := rfl
  cpuSlab := by
    intro cpu found read
    change (if cpu < readable then _ else _) = Except.ok found at read
    split at read
    · rename_i small
      refine ⟨found, ?_, fun _ same => same, fun _ same => same, fun _ same => same⟩
      rw [← read]
      exact if_pos (Nat.lt_of_lt_of_le small few)
    · cases read
  objects := fun _ _ same => same
  next := fun _ _ same => same
  words := fun _ _ same => same

/-- The caches before anything was done with them. -/
def twoCpusWorld : SlubWorld :=
  ⟨fun _ => freshTables (twoCpusSystem 2), []⟩

/-- A query is left at the first processor, and the next one returns. -/
theorem queries_cover_after_early_failure :
    Exists fun after : SlubWorld =>
      (twoCpusTurn 2).run (finalState ((twoCpusTurn 0).run twoCpusWorld)) = .ok ⟨⟩ after ∧
      Covers (twoCpusSystem 2) (twoCpus 2) (after.tables 16) := by
  have start : SparedRun (twoCpusSystem 2) (twoCpus 2) twoCpusWorld := .start rfl
  have left : SparedRun (twoCpusSystem 2) (twoCpus 2) _ :=
    .turn (twoCpusTurn 0) start (twoCpus_reads (Nat.zero_le 2)) fun _ _ => .inr rfl
  refine ⟨_, rfl, ?_⟩
  exact queries_cover_unless_scan_cut left (twoCpusTurn 2) (twoCpus_reads (Nat.le_refl 2))
    (fun _ _ => .inl rfl) rfl

/-- A query is left at the second processor.  The next one returns and does not
know what that processor holds. -/
theorem queries_do_not_cover_after_cut_scan :
    Exists fun left : SlubWorld => Exists fun after : SlubWorld =>
      Reads (twoCpusTurn 1).system (twoCpusTurn 1).cache (twoCpusSystem 2) (twoCpus 2) ∧
      Reads (twoCpusTurn 2).system (twoCpusTurn 2).cache (twoCpusSystem 2) (twoCpus 2) ∧
      (twoCpusTurn 1).run twoCpusWorld = .error (.raised (.gdb .memoryError)) left ∧
      (twoCpusTurn 2).run left = .ok ⟨⟩ after ∧
      ¬ Covers (twoCpusSystem 2) (twoCpus 2) (after.tables 16) := by
  refine ⟨_, _, twoCpus_reads (Nat.le_succ 1), twoCpus_reads (Nat.le_refl 2), rfl, rfl, ?_⟩
  intro covers
  rcases covers 1 (by decide) with
    ⟨objects, active, slabs, ⟨cpuSlab, read, _, page, _⟩, _, held, _⟩
  cases read
  cases page
  have known : 8192 ∈ [4096] := held (by decide)
  exact absurd known (by decide)

end KmemCacheSLUB
end Slab
end CrashPython

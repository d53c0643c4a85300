import CrashPython.Slab.SlubEnactment

namespace CrashPython
namespace Slab
namespace KmemCacheSLUB

open Library Types

/-!
# The lists of the nodes enact their script

After the scan, `process_all` walks the lists of the nodes.  This part does not
fill in what the scan fills in: it notes the places of slabs, adds reports and
counts.  The counts start from what the scan has found, so that the script of
this part takes two numbers from the state.
-/

variable {system : SlubSystem} {cache : KmemCacheSLUB}

section

variable (system cache) (header : SlabSLUB -> SlubM PUnit) (level : Nat)

/-- The end of `process_all`. -/
def closing (totals : NodeTotals) : SlubM (Option Totals) := do
  let final <- cache.tables
  let nrPercpu : Int := final.cpuSlabs.length
  let nrFull := totals.nrSlabs - totals.nrPartial - nrPercpu
  (if cache.tracksFullSlabs = true ∧ totals.nrFullList ≠ nrFull then
    modify (SlubWorld.prErr (.fullCount cache.address nrFull totals.nrFullList))
  else pure ⟨⟩)
  modify (SlubWorld.update cache.address fun tables => { tables with processed := true })
  return some ⟨totals.nrSlabs, totals.nrPartial, nrPercpu, nrFull, totals.nrObjs, totals.nrFreeObjs⟩

/-- `process_all` from the lists of the nodes on. -/
def finishFrom (nrFreeObjs : Int) : SlubM (Option Totals) := do
  let nids <- raising (halting (forEachNid system))
  let totals <- nids.foldlM (processNid system cache header level) { nrFreeObjs := nrFreeObjs }
  closing cache totals

/-- `process_all` after the scan. -/
def finish : SlubM (Option Totals) := do
  let scanned <- cache.tables
  finishFrom system cache header level (scanned.cpuSlabsFree + scanned.cpuFreelists.length)

/-- The end of `process_all` always returns. -/
theorem closing_returns (totals : NodeTotals) (world : SlubWorld) :
    Exists fun value : Option Totals => Exists fun after : SlubWorld =>
      (closing cache totals).run world = .ok value after ∧
        after.tables = (world.update cache.address fun tables =>
          { tables with processed := true }).tables := by
  let nrPercpu : Int := (world.tables cache.address).cpuSlabs.length
  let nrFull := totals.nrSlabs - totals.nrPartial - nrPercpu
  have unfolded : (closing cache totals).run world =
      ((if cache.tracksFullSlabs = true ∧ totals.nrFullList ≠ nrFull then
          modify (SlubWorld.prErr (.fullCount cache.address nrFull totals.nrFullList))
        else pure ⟨⟩ : SlubM PUnit) >>= fun _ =>
          modify (SlubWorld.update cache.address fun tables => { tables with processed := true }) >>=
            fun _ => pure (some ⟨totals.nrSlabs, totals.nrPartial, nrPercpu, nrFull, totals.nrObjs,
              totals.nrFreeObjs⟩)).run world :=
    rfl
  rw [unfolded]
  by_cases mismatch : cache.tracksFullSlabs = true ∧ totals.nrFullList ≠ nrFull
  · rw [if_pos mismatch]
    exact ⟨_, _, rfl, rfl⟩
  · rw [if_neg mismatch]
    exact ⟨_, _, rfl, rfl⟩

/-- `process_all` is the scan and what comes after it, unless nothing is to be
done. -/
theorem processAllWith_eq (fuel : Nat) :
    processAllWith system cache header level fuel = (do
      let known <- cache.tables
      if level = 0 ∧ known.processed = true then pure none
      else
        processPercpu system cache header level fuel
        finish system cache header level) :=
  rfl

end

section Nodes

variable {View : Type}

/-- A view for the lists of the nodes.  Neither the places of slabs nor headers
and printed objects show in it. -/
structure NodeShows (system : SlubSystem) (cache : KmemCacheSLUB) (view : SlubWorld -> View)
    (perform : ScanAction -> View -> View) (header : SlabSLUB -> SlubM PUnit) (level : Nat)
    (outcome : KmemCacheSLUB -> Except Halt PUnit) (keep : (Nat -> SlubTables) -> Prop) : Prop where
  report : forall report world, view (world.prErr report) = perform (.report report) (view world)
  placed : forall (world : SlubWorld) (places : List (Nat × NodePlace) -> List (Nat × NodePlace)),
    view (world.update cache.address fun tables =>
      { tables with nodeSlabs := places tables.nodeSlabs }) = view world
  kept : forall (world : SlubWorld) (places : List (Nat × NodePlace) -> List (Nat × NodePlace)),
    keep world.tables -> keep (world.update cache.address fun tables =>
      { tables with nodeSlabs := places tables.nodeSlabs }).tables
  printed : 4 ≤ level -> forall slab world,
    view (finalState ((SlabSLUB.populateFree system slab).run world)) = view world
  headed : 3 ≤ level -> forall slab, slab.kmemCache = cache ->
    Enacts view perform (fun world => keep world.tables) (.reading (outcome cache))
      (fun _ _ world => keep world.tables) (header slab)

variable {view : SlubWorld -> View} {perform : ScanAction -> View -> View}
variable {header : SlabSLUB -> SlubM PUnit} {level : Nat}
variable {outcome : KmemCacheSLUB -> Except Halt PUnit} {keep : (Nat -> SlubTables) -> Prop}
variable (shows : NodeShows system cache view perform header level outcome keep)

/-- A wrapper from a list is new and belongs to the cache. -/
theorem fromListHead_ok {listHead : Nat} {slab : SlabSLUB}
    (made : SlabSLUB.fromListHead system listHead cache = .ok slab) :
    slab.kmemCache = cache ∧ slab.freePopulated = false := by
  have new := SlabSLUB.make_ok system (fetched_eq_ok made)
  exact new.2.2.2

include shows

/-- A message in the walk along the lists. -/
theorem nodeNoted {condition : Prop} [Decidable condition] (report : SlubReport) :
    Enacts view perform (fun world => keep world.tables)
      (if condition then .act (.report report) else pure ⟨⟩ : SlubScript PUnit)
      (fun _ _ world => keep world.tables)
      (if condition then modify (SlubWorld.prErr report) else pure ⟨⟩) := by
  split
  · exact Enacts.does (fun world _ => shows.report report world) fun _ start => start
  · exact Enacts.returns fun world start => start

/-- Noting the place of a slab does not show. -/
theorem noteNodeSlab_enacts (slab : SlabSLUB) (place : NodePlace) :
    Enacts view perform (fun world => keep world.tables) (pure ⟨⟩ : SlubScript PUnit)
      (fun _ _ world => keep world.tables) (cache.noteNodeSlab slab place) := by
  apply consults
  intro known
  refine Enacts.starting (fun world start => And.right start) ?_
  split
  · exact Enacts.returns fun world start => start
  · exact fun world start => ⟨⟨⟩, _, rfl, shows.placed world _, shows.kept world _ start⟩

/-- Printing the objects of a slab on a list. -/
theorem printNodeSlab_enacts {slab : SlabSLUB} (fresh : slab.freePopulated = false) :
    Enacts view perform (fun world => keep world.tables) (printScript system level false slab)
      (fun _ _ world => keep world.tables)
      (if 4 ≤ level then discard (SlabSLUB.printObjects system slab) else pure ⟨⟩) := by
  unfold printScript
  by_cases printing : 4 ≤ level
  · rw [if_pos printing, if_pos ⟨printing, rfl⟩]
    apply Enacts.discarding
    apply populateFree_reads ?_ (shows.printed printing) (SlabSLUB.alike_refl slab) fresh
    intro world after same start
    rw [same]
    exact start
  · rw [if_neg printing, if_neg fun both => printing both.1]
    exact Enacts.returns fun world start => start

/-- A slab on a list of a node. -/
theorem visitNodeSlab_enacts (place : NodePlace) (listHead : Nat) :
    Enacts view perform (fun world => keep world.tables)
      (visitNodeScript system cache outcome level place listHead)
      (fun slab value world => value = slab ∧ keep world.tables)
      (visitNodeSlab system cache header level place listHead) := by
  apply Enacts.reads
  intro slab made
  have new := fromListHead_ok (halting_eq_ok made)
  have headed : Enacts view perform (fun world => keep world.tables)
      (headerScript outcome level 3 slab) (fun _ _ world => keep world.tables)
      (if 3 ≤ level then header slab else pure ⟨⟩) := by
    simp only [headerScript]
    by_cases printing : 3 ≤ level
    · rw [if_pos printing, if_pos printing, new.1]
      exact shows.headed printing slab new.1
    · rw [if_neg printing, if_neg printing]
      exact Enacts.returns fun world start => start
  have warned : Enacts view perform (fun world => keep world.tables)
      (SlabSLUB.frozenScript system slab 0 (.node place)) (fun _ _ world => keep world.tables)
      (SlabSLUB.warnFrozen system slab 0 (.node place)) := by
    apply Enacts.reads
    intro frozen read
    exact nodeNoted shows _
  apply headed.andThen
  intro _ _ _
  apply (printNodeSlab_enacts shows new.2).andThen
  intro _ _ _
  apply warned.andThen
  intro _ _ _
  change Enacts _ _ _ ((pure ⟨⟩ : SlubScript PUnit) >>= fun _ => pure slab) _ _
  apply (noteNodeSlab_enacts shows slab place).andThen
  intro _ _ _
  exact Enacts.returns fun world start => ⟨rfl, start⟩

omit shows in
/-- The end of a walk along a list. -/
theorem endWalk_enacts {ready : SlubWorld -> Prop} (ending : Ending ListError) :
    Enacts view perform ready (endScript ending) (fun _ _ => ready) (endWalk ending) := by
  cases ending with
  | completed => exact Enacts.returns fun world start => start
  | raised error => exact Enacts.raises rfl

/-- The partial list of a node. -/
theorem walkNodePartial_enacts (nid : Nat) (node : KmemCacheNode) (nrFreeObjs : Int) :
    Enacts view perform (fun world => keep world.tables)
      (nodePartialScript system cache outcome level nid node nrFreeObjs)
      (fun outcome value world => value = outcome ∧ keep world.tables)
      (walkNodePartial system cache header level nid node nrFreeObjs) := by
  simp only [nodePartialScript, walkNodePartial]
  apply Enacts.andThen (Enacts.fold _ _)
  · intro counted value ended
    apply Enacts.given
    intro same
    subst same
    apply (endWalk_enacts _).andThen
    intro _ _ _
    exact Enacts.returns fun world start => ⟨rfl, start⟩
  · intro counted listHead member
    apply (visitNodeSlab_enacts shows (.onPartial nid) listHead).andThen
    intro slab value ended
    apply Enacts.returns
    intro world between
    rw [between.1]
    exact ⟨rfl, between.2⟩

/-- The full list of a node. -/
theorem walkNodeFull_enacts (nid : Nat) (node : KmemCacheNode) :
    Enacts view perform (fun world => keep world.tables)
      (nodeFullScript system cache outcome level nid node)
      (fun outcome value world => value = outcome ∧ keep world.tables)
      (walkNodeFull system cache header level nid node) := by
  simp only [nodeFullScript, walkNodeFull]
  apply Enacts.andThen (Enacts.fold _ _)
  · intro counted value ended
    apply Enacts.given
    intro same
    subst same
    apply (endWalk_enacts _).andThen
    intro _ _ _
    exact Enacts.returns fun world start => ⟨rfl, start⟩
  · intro counted listHead member
    apply (visitNodeSlab_enacts shows (.full nid) listHead).andThen
    intro slab value ended
    exact Enacts.returns fun world between => ⟨rfl, between.2⟩

/-- One node. -/
theorem processNode_enacts (totals : NodeTotals) (nid : Nat) (node : KmemCacheNode) :
    Enacts view perform (fun world => keep world.tables)
      (nodeScript system cache outcome level totals nid node)
      (fun outcome value world => value = outcome ∧ keep world.tables)
      (processNode system cache header level totals nid node) := by
  apply Enacts.reads
  intro nrSlabs _
  apply Enacts.reads
  intro nrObjs _
  apply Enacts.reads
  intro expected _
  apply (walkNodePartial_enacts shows nid node totals.nrFreeObjs).andThen
  intro counted value _
  apply Enacts.given
  intro same
  subst same
  apply (nodeNoted shows _).andThen
  intro _ _ _
  apply (walkNodeFull_enacts shows nid node).andThen
  intro found full _
  apply Enacts.given
  intro same
  subst same
  apply (nodeNoted shows _).andThen
  intro _ _ _
  exact Enacts.returns fun world start => ⟨rfl, start⟩

/-- One node number. -/
theorem processNid_enacts (totals : NodeTotals) (nid : Nat) :
    Enacts view perform (fun world => keep world.tables)
      (nidScript system cache outcome level totals nid)
      (fun outcome value world => value = outcome ∧ keep world.tables)
      (processNid system cache header level totals nid) := by
  apply Enacts.reads
  intro node _
  cases node with
  | none => exact Enacts.returns fun world start => ⟨rfl, start⟩
  | some node => exact processNode_enacts shows totals nid node

/-- What comes after the scan.  The two numbers are the ones that the cache
keeps from its scan. -/
theorem finish_enacts (nrFreeObjs nrPercpu : Int)
    (free : forall tables, keep tables ->
      (tables cache.address).cpuSlabsFree + (tables cache.address).cpuFreelists.length = nrFreeObjs)
    (slabs : forall tables, keep tables -> ((tables cache.address).cpuSlabs.length : Int) = nrPercpu)
    (flagged : forall world : SlubWorld, keep world.tables ->
      view (world.update cache.address fun tables => { tables with processed := true }) = view world) :
    Enacts view perform (fun world => keep world.tables)
      (finishScript system cache outcome level nrFreeObjs nrPercpu)
      (fun outcome value world => value = outcome ∧ Exists fun before : SlubWorld =>
        keep before.tables ∧ world = before.update cache.address fun tables =>
          { tables with processed := true })
      (finish system cache header level) := by
  apply consults
  intro scanned
  have read : forall world : SlubWorld, world.tables cache.address = scanned ∧ keep world.tables ->
      scanned.cpuSlabsFree + scanned.cpuFreelists.length = nrFreeObjs := by
    rintro world ⟨rfl, start⟩
    exact free world.tables start
  apply Enacts.knowing read
  intro counted
  rw [counted]
  refine Enacts.starting (fun world start => And.right start) ?_
  apply Enacts.reads
  intro nids _
  apply (Enacts.fold (fun totals nid _ => processNid_enacts shows totals nid) _).andThen
  intro totals value _
  apply Enacts.given
  intro same
  subst same
  apply consults
  intro final
  have reread : forall world : SlubWorld, world.tables cache.address = final ∧ keep world.tables ->
      (final.cpuSlabs.length : Int) = nrPercpu := by
    rintro world ⟨rfl, start⟩
    exact slabs world.tables start
  apply Enacts.knowing reread
  intro held
  simp only [held]
  refine Enacts.starting (fun world start => And.right start) ?_
  apply (nodeNoted shows _).andThen
  intro _ _ _
  exact fun world start => ⟨_, _, rfl, flagged world start, rfl, world, start, rfl⟩

end Nodes

end KmemCacheSLUB
end Slab
end CrashPython

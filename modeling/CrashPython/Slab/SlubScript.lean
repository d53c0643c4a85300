import CrashPython.Library.Script
import CrashPython.Slab.KmemCacheSLUB

namespace CrashPython
namespace Slab

open Library Types

/-!
# The script of a scan

What the scan of the processors reads does not depend on the dictionaries that
it fills, apart from the choice between filling them and only checking.  Its
script can therefore be written down from memory: which objects it records,
which slabs it finds, what it reports on the way, and at which read it is left
by an exception.

A slab that is found twice is not examined a second time.  Examining it would
not fail where it did not fail the first time, so that this does not show in the
way the script ends.  The headers of slabs lead out of the cache; the script
takes how they end as a parameter.
-/

/-- What the scan does to the object of its cache. -/
inductive ScanAction where
  | record (cpu obj : Nat)
  | resize (cpu size : Nat)
  | hold (slab : SlabSLUB) (place : CpuPlace)
  | report (report : SlubReport)

/-- The script of a part of `process_all`. -/
abbrev SlubScript : Type -> Type :=
  Script Halt ScanAction

/-- A value that gdb reads. -/
def glimpse {Value : Type} (read : Except GdbError Value) : SlubScript Value :=
  .reading (halting (fetched read))

namespace SlabSLUB

variable (system : SlubSystem)

/-- The objects of a walk along a page freelist, added to those found before. -/
def gathered (free : Finset Nat) (walk : List Nat × ChainEnd GdbError) : Except Halt (Finset Nat) :=
  match walk.2 with
  | .failed error => .error (.raised (.gdb error))
  | _ => .ok (free ∪ walk.1.toFinset)

/-- The objects that `_do_populate_free` finds. -/
def freeObjects (slab : SlabSLUB) : Except Halt (Finset Nat) := do
  let freelist <- halting (fetched (system.pages slab.address).freelist)
  gathered ∅ (chainWalk (freePointer system slab.kmemCache) slab.nrObjects freelist)

/-- A wrapper of the same slab. -/
structure Alike (slab other : SlabSLUB) : Prop where
  address : other.address = slab.address
  kmemCache : other.kmemCache = slab.kmemCache
  nrObjects : other.nrObjects = slab.nrObjects
  nrInuse : other.nrInuse = slab.nrInuse

/-- The page can be taken as a slab, and its free objects can be read. -/
def HoldsWell (page : Nat) : Prop :=
  Exists fun slab : SlabSLUB => Exists fun free : Finset Nat =>
    fromPageObj system page = .ok slab ∧ freeObjects system slab = .ok free

/-- The script of `warn_frozen`. -/
def frozenScript (slab : SlabSLUB) (expected : Nat) (place : FrozenPlace) : SlubScript PUnit := do
  let frozen <- glimpse (system.pages slab.address).frozen
  if expected ≠ frozen then
    .act (.report (.frozen slab.kmemCache.address slab.address expected place))
  else pure ⟨⟩

end SlabSLUB

namespace KmemCacheSLUB

variable (system : SlubSystem) (cache : KmemCacheSLUB)

/-- The script of the loop of `_populate_cpu_freelist`. -/
def locklessScript (cpu : Nat) : Nat -> Nat -> Nat -> SlubScript Nat
  | 0, nrFree, freelist =>
      if freelist = 0 then pure nrFree
      else do
        .act (.report (.freelistOverflow cache.address cpu))
        return nrFree + 1
  | remaining + 1, nrFree, freelist =>
      if freelist = 0 then pure nrFree
      else do
        .act (.record cpu freelist)
        let next <- glimpse (SlabSLUB.freePointer system cache freelist)
        locklessScript cpu remaining (nrFree + 1) next

/-- The script of `_populate_cpu_freelist`. -/
def populateScript (cpu : Nat) (cpuSlab : KmemCacheCpu) : SlubScript Nat := do
  let freelist <- glimpse cpuSlab.freelist
  if freelist = 0 then pure 0
  else do
    let page <- glimpse cpuSlab.page
    let nrObjects <- glimpse (system.pages page).objects
    locklessScript system cache cpu nrObjects 0 freelist

variable (sizes : Nat)

/-- The index of a processor is looked up in the list of the sizes. -/
def indexed (cpu : Nat) : Except Halt PUnit :=
  if cpu < sizes then .ok ⟨⟩ else .error (.raised .indexError)

/-- The script for the chain of a processor. -/
def freelistScript (fill : Bool) (cpu : Nat) (cpuSlab : KmemCacheCpu) : SlubScript PUnit :=
  if fill then do
    let size <- populateScript system cache cpu cpuSlab
    .reading (indexed sizes cpu)
    .act (.resize cpu size)
  else .reading (indexed sizes cpu)

/-- The script for a slab that a processor holds. -/
def holdScript (fill : Bool) (page : Nat) (place : CpuPlace) : SlubScript SlabSLUB := do
  let slab <- .reading (halting (SlabSLUB.fromPageObj system page))
  if fill then do
    .act (.hold slab place)
    let _ <- .reading (SlabSLUB.freeObjects system slab)
    return slab
  else pure slab

section Scan

variable (outcome : KmemCacheSLUB -> Except Halt PUnit) (level : Nat)

/-- The script of a header. -/
def headerScript (least : Nat) (slab : SlabSLUB) : SlubScript PUnit :=
  if least ≤ level then .reading (outcome slab.kmemCache) else pure ⟨⟩

/-- The script of `print_objects`, for which the free objects of a slab that
was not filled in are read. -/
def printScript (fill : Bool) (slab : SlabSLUB) : SlubScript PUnit :=
  if 4 ≤ level ∧ fill = false then do
    let _ <- .reading (SlabSLUB.freeObjects system slab)
    return ⟨⟩
  else pure ⟨⟩

/-- The script for the active slab of a processor. -/
def activeScript (fill : Bool) (cpu : Nat) (cpuSlab : KmemCacheCpu) : SlubScript PUnit := do
  let page <- glimpse cpuSlab.page
  if page = 0 then pure ⟨⟩
  else do
    let slab <- holdScript system fill page (.slab cpu)
    headerScript outcome level 2 slab
    SlabSLUB.frozenScript system slab 1 (.cpu (.slab cpu))
    printScript system level fill slab

/-- The script for one slab of the partial list of a processor. -/
def visitScript (fill : Bool) (cpu page : Nat) : SlubScript Int := do
  let slab <- holdScript system fill page (.onPartial cpu)
  let pages <- glimpse (system.pages page).pages
  headerScript outcome level 3 slab
  printScript system level fill slab
  SlabSLUB.frozenScript system slab 1 (.cpu (.onPartial cpu))
  return pages

/-- The script of the loop over the partial list of a processor. -/
def partialScript (fill : Bool) (cpu : Nat) : Nat -> Nat -> Int -> Int -> SlubScript PUnit
  | 0, _, _, _ => .reading (.error .outOfFuel)
  | fuel + 1, page, expected, last =>
      if page = 0 then
        if last ≠ 1 then .act (.report (.pagesNotOne cache.address cpu last)) else pure ⟨⟩
      else do
        let pages <- visitScript system outcome level fill cpu page
        (if pages ≠ expected then
          .act (.report (.pagesUnexpected cache.address cpu page pages expected))
        else pure ⟨⟩)
        let next <- glimpse (system.pages page).next
        partialScript fill cpu fuel next (pages - 1) pages

/-- The script up to the partial list of a processor, which it finds. -/
def headScript (fill : Bool) (cpu : Nat) : SlubScript Nat := do
  let cpuSlab <- .reading (halting (cache.cpuSlab cpu))
  freelistScript system cache sizes fill cpu cpuSlab
  activeScript system outcome level fill cpu cpuSlab
  glimpse cpuSlab.onPartial

/-- The script for the partial list of a processor. -/
def tailScript (fuel : Nat) (fill : Bool) (cpu first : Nat) : SlubScript PUnit :=
  if first = 0 then pure ⟨⟩
  else do
    let expected <- glimpse (system.pages first).pages
    partialScript system cache outcome level fill cpu fuel first expected (-1)

/-- The script of the loop body of `_process_percpu`. -/
def cpuScript (fuel : Nat) (fill : Bool) (cpu : Nat) : SlubScript PUnit := do
  let first <- headScript system cache sizes outcome level fill cpu
  tailScript system cache outcome level fuel fill cpu first

/-- The script of the loop of `_process_percpu`. -/
def scanScript (fuel : Nat) (fill : Bool) : SlubScript PUnit :=
  system.cpusOnline.forM (cpuScript system cache sizes outcome level fuel fill)

/-- The script of `_process_percpu` for a cache with the given attributes. -/
def percpuScript (fuel : Nat) (known : SlubTables) : SlubScript PUnit :=
  if known.cpuSlabs.isEmpty = false ∧ level = 0 then pure ⟨⟩
  else scanScript system cache known.cpuFreelistsSizes.length outcome level fuel
    known.cpuSlabs.isEmpty

/-! ## The lists of the nodes -/

/-- The script for a slab on a list of a node. -/
def visitNodeScript (place : NodePlace) (listHead : Nat) : SlubScript SlabSLUB := do
  let slab <- .reading (halting (SlabSLUB.fromListHead system listHead cache))
  headerScript outcome level 3 slab
  printScript system level false slab
  SlabSLUB.frozenScript system slab 0 (.node place)
  return slab

/-- The end of a walk along a list. -/
def endScript : Ending ListError -> SlubScript PUnit
  | .completed => pure ⟨⟩
  | .raised error => .reading (.error (.raised (.listFailure error)))

/-- The script for the partial list of a node. -/
def nodePartialScript (nid : Nat) (node : KmemCacheNode) (nrFreeObjs : Int) :
    SlubScript (Int × Int) := do
  let walk := listRun system.lists.image {} node.partialList
  let counted <- (yieldedNodes walk.events).foldlM (fun counted listHead => do
    let slab <- visitNodeScript system cache outcome level (.onPartial nid) listHead
    return (counted.1 + 1, counted.2 + slab.nrFree)) (0, nrFreeObjs)
  endScript walk.ending
  return counted

/-- The script for the full list of a node. -/
def nodeFullScript (nid : Nat) (node : KmemCacheNode) : SlubScript Int := do
  let walk := listRun system.lists.image {} node.fullList
  let counted <- (yieldedNodes walk.events).foldlM (fun counted listHead => do
    let _ <- visitNodeScript system cache outcome level (.full nid) listHead
    return counted + 1) 0
  endScript walk.ending
  return counted

/-- The script of the loop body of `process_all`. -/
def nodeScript (totals : NodeTotals) (nid : Nat) (node : KmemCacheNode) : SlubScript NodeTotals := do
  let nrSlabs <- glimpse node.nrSlabs
  let nrObjs <- glimpse node.totalObjects
  let expected <- glimpse node.nrPartial
  let (nrPartial, nrFreeObjs) <-
    nodePartialScript system cache outcome level nid node totals.nrFreeObjs
  (if expected ≠ nrPartial then
    .act (.report (.partialCount cache.address nid nrPartial expected))
  else pure ⟨⟩)
  let nrFullList <- nodeFullScript system cache outcome level nid node
  (if 0 < nrFullList ∧ cache.tracksFullSlabs = false then
    .act (.report (.fullListNotEmpty cache.address nid nrFullList))
  else pure ⟨⟩)
  return ⟨totals.nrSlabs + nrSlabs, totals.nrPartial + expected, totals.nrObjs + nrObjs, nrFreeObjs,
    totals.nrFullList + nrFullList⟩

/-- The script for one node number. -/
def nidScript (totals : NodeTotals) (nid : Nat) : SlubScript NodeTotals := do
  let node <- glimpse (cache.nodelist nid)
  match node with
  | none => pure totals
  | some node => nodeScript system cache outcome level totals nid node

/-- The script of `process_all` after the scan.  It starts with the number of
free objects of the processors, and compares with the number of their slabs. -/
def finishScript (nrFreeObjs nrPercpu : Int) : SlubScript (Option Totals) := do
  let nids <- .reading (halting (forEachNid system))
  let totals <- nids.foldlM (nidScript system cache outcome level) { nrFreeObjs := nrFreeObjs }
  let nrFull := totals.nrSlabs - totals.nrPartial - nrPercpu
  (if cache.tracksFullSlabs = true ∧ totals.nrFullList ≠ nrFull then
    .act (.report (.fullCount cache.address nrFull totals.nrFullList))
  else pure ⟨⟩)
  return some ⟨totals.nrSlabs, totals.nrPartial, nrPercpu, nrFull, totals.nrObjs, totals.nrFreeObjs⟩

end Scan

end KmemCacheSLUB
end Slab
end CrashPython

import CrashPython.Slab.SlabSLUB

namespace CrashPython
namespace Slab
namespace KmemCacheSLUB

open Library Types

/-!
# Class `KmemCacheSLUB`

`process_all` scans what the processors hold and then walks the lists of the
nodes.  The first scan fills the dictionaries of the cache; it counts as the
first one as long as no slab of a processor is known.  Later scans repeat the
checks of the slabs and leave the dictionaries as they are.

From print level 2 on the scan prints headers of slabs.  A header names the role
of its slab, for which the cache of the slab has to be processed: this is a scan
within the scan, at print level 0, which prints no headers itself.  The scan is
therefore written with the header as a parameter.
-/

/-- Write the dictionary entry of a key. -/
def dictSet {Value : Type} (key : Nat) (value : Value) : List (Nat × Value) -> List (Nat × Value)
  | [] => [(key, value)]
  | entry :: rest =>
      if entry.1 = key then (key, value) :: rest else entry :: dictSet key value rest

/-- What is counted in the loop over the nodes. -/
structure NodeTotals where
  nrSlabs : Int := 0
  nrPartial : Int := 0
  nrObjs : Int := 0
  nrFreeObjs : Int
  nrFullList : Int := 0
deriving DecidableEq, Repr

/-- The numbers that `process_all` prints at its end. -/
structure Totals where
  nrSlabs : Int
  nrPartial : Int
  nrPercpu : Int
  nrFull : Int
  nrObjs : Int
  nrFreeObjs : Int
deriving DecidableEq, Repr

variable (system : SlubSystem) (cache : KmemCacheSLUB)

/-- The object of the cache before anything was done with it. -/
def freshTables : SlubTables where
  cpuFreelistsSizes := List.replicate system.cpusOnline.length 0

/-- The attributes of this cache. -/
def tables : SlubM SlubTables := do
  let world <- get
  return world.tables cache.address

/-! ## The scan of the processors -/

/-- An object on the chain of a processor. -/
def recordObject (cpu obj : Nat) (world : SlubWorld) : SlubWorld :=
  match (world.tables cache.address).cpuFreelists.lookup obj with
  | some known => world.prErr (.freelistDuplicate cache.address obj cpu known)
  | none => world.update cache.address fun tables =>
      { tables with cpuFreelists := tables.cpuFreelists ++ [(obj, cpu)] }

/-- The loop of `_populate_cpu_freelist`, with the rounds that are left. -/
def walkCpuFreelist (cpu : Nat) : Nat -> Nat -> Nat -> SlubM Nat
  | 0, nrFree, freelist =>
      if freelist = 0 then pure nrFree
      else do
        modify (SlubWorld.prErr (.freelistOverflow cache.address cpu))
        return nrFree + 1
  | remaining + 1, nrFree, freelist =>
      if freelist = 0 then pure nrFree
      else do
        modify (recordObject cache cpu freelist)
        let next <- peek (SlabSLUB.freePointer system cache freelist)
        walkCpuFreelist cpu remaining (nrFree + 1) next

/-- `_populate_cpu_freelist`. -/
def populateCpuFreelist (cpu : Nat) (cpuSlab : KmemCacheCpu) : SlubM Nat := do
  let freelist <- peek cpuSlab.freelist
  if freelist = 0 then pure 0
  else do
    let page <- peek cpuSlab.page
    let nrObjects <- peek (system.pages page).objects
    walkCpuFreelist system cache cpu nrObjects 0 freelist

/-- Add a slab to the dictionary of the slabs of processors. -/
def enterSlab (slab : SlabSLUB) (place : CpuPlace) (tables : SlubTables) : SlubTables :=
  { tables with
    cpuSlabs := tables.cpuSlabs ++ [(slab.address, place)]
    cpuSlabsObjects := tables.cpuSlabsObjects + slab.nrObjects
    cpuSlabsFree := tables.cpuSlabsFree + slab.nrFree }

/-- `_add_percpu_slub`. -/
def addPercpuSlub (slab : SlabSLUB) (place : CpuPlace) : SlubM SlabSLUB := do
  let known <- cache.tables
  match known.cpuSlabs.lookup slab.address with
  | some other => do
      modify (SlubWorld.prErr (.slabTwice cache.address slab.address place other))
      return slab
  | none => do
      modify (SlubWorld.update cache.address (enterSlab slab place))
      SlabSLUB.populateFree system slab

/-- Write the size of the chain of a processor.  The list of the sizes has one
place for each online processor. -/
def setSize (cpu size : Nat) : SlubM PUnit := do
  let known <- cache.tables
  if cpu < known.cpuFreelistsSizes.length then
    modify (SlubWorld.update cache.address fun tables =>
      { tables with cpuFreelistsSizes := tables.cpuFreelistsSizes.set cpu size })
  else throw (.raised .indexError)

/-- Read the size of the chain of a processor. -/
def getSize (cpu : Nat) : SlubM PUnit := do
  let known <- cache.tables
  if cpu < known.cpuFreelistsSizes.length then pure ⟨⟩ else throw (.raised .indexError)

/-- The chain of a processor. -/
def scanFreelist (fill : Bool) (cpu : Nat) (cpuSlab : KmemCacheCpu) : SlubM PUnit :=
  if fill then do
    let size <- populateCpuFreelist system cache cpu cpuSlab
    cache.setSize cpu size
  else cache.getSize cpu

/-- A slab that a processor holds. -/
def holdSlab (fill : Bool) (page : Nat) (place : CpuPlace) : SlubM SlabSLUB := do
  let slab <- raising (halting (SlabSLUB.fromPageObj system page))
  if fill then addPercpuSlub system cache slab place else pure slab

section Scan

variable (header : SlabSLUB -> SlubM PUnit) (level : Nat)

/-- The active slab of a processor. -/
def scanActive (fill : Bool) (cpu : Nat) (cpuSlab : KmemCacheCpu) : SlubM PUnit := do
  let page <- peek cpuSlab.page
  if page = 0 then pure ⟨⟩
  else do
    let slab <- holdSlab system cache fill page (.slab cpu)
    (if 2 ≤ level then header slab else pure ⟨⟩)
    SlabSLUB.warnFrozen system slab 1 (.cpu (.slab cpu))
    (if 4 ≤ level then discard (SlabSLUB.printObjects system slab) else pure ⟨⟩)

/-- One slab of the partial list of a processor: its number of pages. -/
def visitPartial (fill : Bool) (cpu page : Nat) : SlubM Int := do
  let slab <- holdSlab system cache fill page (.onPartial cpu)
  let pages <- peek (system.pages page).pages
  (if 3 ≤ level then header slab else pure ⟨⟩)
  (if 4 ≤ level then discard (SlabSLUB.printObjects system slab) else pure ⟨⟩)
  SlabSLUB.warnFrozen system slab 1 (.cpu (.onPartial cpu))
  return pages

/-- The loop over the partial list of a processor.  Nothing bounds it but the
null pointer. -/
def walkPartial (fill : Bool) (cpu : Nat) : Nat -> Nat -> Int -> Int -> SlubM PUnit
  | 0, _, _, _ => throw .outOfFuel
  | fuel + 1, page, expected, last =>
      if page = 0 then
        if last ≠ 1 then modify (SlubWorld.prErr (.pagesNotOne cache.address cpu last)) else pure ⟨⟩
      else do
        let pages <- visitPartial system cache header level fill cpu page
        (if pages ≠ expected then
          modify (SlubWorld.prErr (.pagesUnexpected cache.address cpu page pages expected))
        else pure ⟨⟩)
        let next <- peek (system.pages page).next
        walkPartial fill cpu fuel next (pages - 1) pages

/-- The partial list of a processor. -/
def scanPartial (fuel : Nat) (fill : Bool) (cpu : Nat) (cpuSlab : KmemCacheCpu) : SlubM PUnit := do
  let first <- peek cpuSlab.onPartial
  if first = 0 then pure ⟨⟩
  else do
    let expected <- peek (system.pages first).pages
    walkPartial system cache header level fill cpu fuel first expected (-1)

/-- The loop body of `_process_percpu`. -/
def scanCpu (fuel : Nat) (fill : Bool) (cpu : Nat) : SlubM PUnit := do
  let cpuSlab <- raising (halting (cache.cpuSlab cpu))
  scanFreelist system cache fill cpu cpuSlab
  scanActive system cache header level fill cpu cpuSlab
  scanPartial system cache header level fuel fill cpu cpuSlab

/-- `_process_percpu`. -/
def processPercpu (fuel : Nat) : SlubM PUnit := do
  let known <- cache.tables
  let fill := known.cpuSlabs.isEmpty
  if fill = false ∧ level = 0 then pure ⟨⟩
  else system.cpusOnline.forM (scanCpu system cache header level fuel fill)

/-! ## The lists of the nodes -/

/-- Note the place of a slab on a list, unless the cache has been processed. -/
def noteNodeSlab (slab : SlabSLUB) (place : NodePlace) : SlubM PUnit := do
  let known <- cache.tables
  if known.processed then pure ⟨⟩
  else modify (SlubWorld.update cache.address fun tables =>
    { tables with nodeSlabs := dictSet slab.address place tables.nodeSlabs })

/-- The loop body for a slab on a list of a node. -/
def visitNodeSlab (place : NodePlace) (listHead : Nat) : SlubM SlabSLUB := do
  let slab <- raising (halting (SlabSLUB.fromListHead system listHead cache))
  (if 3 ≤ level then header slab else pure ⟨⟩)
  (if 4 ≤ level then discard (SlabSLUB.printObjects system slab) else pure ⟨⟩)
  SlabSLUB.warnFrozen system slab 0 (.node place)
  cache.noteNodeSlab slab place
  return slab

/-- The end of a walk along a list. -/
def endWalk : Ending ListError -> SlubM PUnit
  | .completed => pure ⟨⟩
  | .raised error => throw (.raised (.listFailure error))

/-- The partial list of a node: the number of its slabs, and the free objects
with those of the list added. -/
def walkNodePartial (nid : Nat) (node : KmemCacheNode) (nrFreeObjs : Int) : SlubM (Int × Int) := do
  let walk := listRun system.lists.image {} node.partialList
  let counted <- (yieldedNodes walk.events).foldlM (fun counted listHead => do
    let slab <- visitNodeSlab system cache header level (.onPartial nid) listHead
    return (counted.1 + 1, counted.2 + slab.nrFree)) (0, nrFreeObjs)
  endWalk walk.ending
  return counted

/-- The full list of a node: the number of its slabs. -/
def walkNodeFull (nid : Nat) (node : KmemCacheNode) : SlubM Int := do
  let walk := listRun system.lists.image {} node.fullList
  let counted <- (yieldedNodes walk.events).foldlM (fun counted listHead => do
    let _ <- visitNodeSlab system cache header level (.full nid) listHead
    return counted + 1) 0
  endWalk walk.ending
  return counted

/-- The loop body of `process_all`. -/
def processNode (totals : NodeTotals) (nid : Nat) (node : KmemCacheNode) : SlubM NodeTotals := do
  let nrSlabs <- peek node.nrSlabs
  let nrObjs <- peek node.totalObjects
  let expected <- peek node.nrPartial
  let (nrPartial, nrFreeObjs) <- walkNodePartial system cache header level nid node totals.nrFreeObjs
  (if expected ≠ nrPartial then
    modify (SlubWorld.prErr (.partialCount cache.address nid nrPartial expected))
  else pure ⟨⟩)
  let nrFullList <- walkNodeFull system cache header level nid node
  (if 0 < nrFullList ∧ cache.tracksFullSlabs = false then
    modify (SlubWorld.prErr (.fullListNotEmpty cache.address nid nrFullList))
  else pure ⟨⟩)
  return ⟨totals.nrSlabs + nrSlabs, totals.nrPartial + expected, totals.nrObjs + nrObjs, nrFreeObjs,
    totals.nrFullList + nrFullList⟩

/-- `_get_nodelists` for one node number. -/
def processNid (totals : NodeTotals) (nid : Nat) : SlubM NodeTotals := do
  let node <- peek (cache.nodelist nid)
  match node with
  | none => pure totals
  | some node => processNode system cache header level totals nid node

/-- `for_each_nid`. -/
def forEachNid : Except SlabException (List Nat) :=
  if system.nidsPossible = [] then .error .delayedAttribute else .ok system.nidsPossible

/-- `process_all` with some way to print a header.  It returns the numbers it
prints, or nothing if there is nothing to do. -/
def processAllWith (fuel : Nat) : SlubM (Option Totals) := do
  let known <- cache.tables
  if level = 0 ∧ known.processed = true then return none
  else
    processPercpu system cache header level fuel
    let scanned <- cache.tables
    let nids <- raising (halting (forEachNid system))
    let totals <- nids.foldlM (processNid system cache header level)
      { nrFreeObjs := scanned.cpuSlabsFree + scanned.cpuFreelists.length }
    let final <- cache.tables
    let nrPercpu : Int := final.cpuSlabs.length
    let nrFull := totals.nrSlabs - totals.nrPartial - nrPercpu
    (if cache.tracksFullSlabs = true ∧ totals.nrFullList ≠ nrFull then
      modify (SlubWorld.prErr (.fullCount cache.address nrFull totals.nrFullList))
    else pure ⟨⟩)
    modify (SlubWorld.update cache.address fun tables => { tables with processed := true })
    return some ⟨totals.nrSlabs, totals.nrPartial, nrPercpu, nrFull, totals.nrObjs, totals.nrFreeObjs⟩

end Scan

/-! ## Headers and queries -/

/-- `process_all` at print level 0, which prints no header. -/
def processQuietly (fuel : Nat) (cache : KmemCacheSLUB) : SlubM (Option Totals) :=
  processAllWith system cache (fun _ => pure ⟨⟩) 0 fuel

/-- `slub_process_once`. -/
def slubProcessOnce (fuel : Nat) (cache : KmemCacheSLUB) : SlubM PUnit := do
  let known <- cache.tables
  if known.processed then pure ⟨⟩ else discard (processQuietly system fuel cache)

/-- `long_header`.  Apart from `slub_process_once` it only looks things up. -/
def longHeader (fuel : Nat) (slab : SlabSLUB) : SlubM PUnit :=
  slubProcessOnce system fuel slab.kmemCache

/-- `process_all`. -/
def processAll (fuel level : Nat) : SlubM (Option Totals) :=
  processAllWith system cache (longHeader system fuel) level fuel

/-- `list_all`. -/
def listAll (fuel verbosity : Nat) : SlubM PUnit :=
  discard (processAll system cache fuel verbosity)

/-- `check_all`. -/
def checkAll (fuel : Nat) : SlubM PUnit :=
  discard (processAll system cache fuel 1)

end KmemCacheSLUB

namespace SlabSLUB

open Library Types

variable (system : SlubSystem)

/-- The answers of `slab_role`. -/
inductive SlabRole where
  | cpu (place : CpuPlace)
  | node (place : NodePlace)
  | untrackedFull
  | unknown
deriving DecidableEq, Repr

/-- `slab_role`. -/
def slabRole (fuel : Nat) (slab : SlabSLUB) : SlubM SlabRole := do
  KmemCacheSLUB.slubProcessOnce system fuel slab.kmemCache
  let known <- slab.kmemCache.tables
  match known.cpuSlabs.lookup slab.address, known.nodeSlabs.lookup slab.address with
  | some place, _ => return .cpu place
  | none, some place => return .node place
  | none, none => if slab.nrFree = 0 then return .untrackedFull else return .unknown

/-- `obj_in_use`: whether the object is in use, and the processor on whose chain
it is. -/
def objInUse (fuel : Nat) (slab : SlabSLUB) (addr : Nat) : SlubM (Bool × Option Nat) := do
  KmemCacheSLUB.slubProcessOnce system fuel slab.kmemCache
  let populated <- populateFree system slab
  if addr ∈ populated.free then return (false, none)
  else
    let known <- slab.kmemCache.tables
    match known.cpuFreelists.lookup addr with
    | some cpu => return (false, some cpu)
    | none => return (true, none)

end SlabSLUB
end Slab
end CrashPython

import CrashPython.Library.Checker
import CrashPython.Library.PointerChain
import CrashPython.Slab.ArrayCaches
import Mathlib.Data.Finset.Card

namespace CrashPython
namespace Slab

open Library Types

/-!
# Class `SlabSLUB`

A slab of the SLUB allocator is a `struct page`.  Its free objects form a chain
that starts in the page and runs through the objects themselves, with a pointer
at `fp_offset` in each of them.  Each processor keeps another such chain, from
which it allocates without a lock, together with the slab it belongs to and a
list of further slabs.

The wrappers of slabs are made anew for every pass, while what is known about a
cache is kept in its object: the dictionaries of the slabs and free objects that
processors hold.  `SlubWorld` gathers the objects of all caches, because the
slabs of a corrupt cache can lead to another one.  A loop over pointers in memory
need not end, so that code can stop in three ways: it returns, it raises, or it
is still running when the fuel is used up.
-/

/-- The fields of a `struct page` that the SLUB code reads. -/
structure SlubPage where
  freelist : Except GdbError Nat
  objects : Except GdbError Nat
  inuse : Except GdbError Nat
  frozen : Except GdbError Nat
  slabCache : Except GdbError Nat
  pages : Except GdbError Int
  next : Except GdbError Nat

/-- A `struct kmem_cache_cpu`. -/
structure KmemCacheCpu where
  freelist : Except GdbError Nat
  page : Except GdbError Nat
  onPartial : Except GdbError Nat

/-- A `struct kmem_cache_node`, with its two lists given by their heads. -/
structure KmemCacheNode where
  nrSlabs : Except GdbError Int
  totalObjects : Except GdbError Int
  nrPartial : Except GdbError Int
  partialList : Nat
  fullList : Nat

/-- The attributes of a `KmemCacheSLUB` that are fetched when it is made, and
its memory. -/
structure KmemCacheSLUB where
  name : String
  address : Nat
  size : Nat
  flags : Nat
  fpOffset : Nat
  redLeftPadField : Nat
  inuse : Nat
  cpuSlab : Nat -> Except SlabException KmemCacheCpu
  nodelist : Nat -> Except GdbError (Option KmemCacheNode)

namespace KmemCacheSLUB

/-- The flag `RED_ZONE`. -/
def slabRedZone : Nat :=
  0x00000400

/-- The flag `STORE_USER`. -/
def slabStoreUser : Nat :=
  0x00010000

/-- `red_left_pad`. -/
def redLeftPad (cache : KmemCacheSLUB) : Nat :=
  if cache.flags &&& slabRedZone ≠ 0 then cache.redLeftPadField else 0

/-- `tracks_full_slabs`. -/
def tracksFullSlabs (cache : KmemCacheSLUB) : Bool :=
  cache.flags &&& slabStoreUser != 0

end KmemCacheSLUB

/-- What all SLUB caches share: the pages, the words of memory, the lists, and
the known caches by their addresses. -/
structure SlubSystem where
  pageClass : PageClass
  pages : Nat -> SlubPage
  words : Nat -> Except GdbError Nat
  lists : ListMemory := .empty
  lruOffset : Nat := 0
  cpusOnline : List Nat
  nidsPossible : List Nat
  caches : Nat -> Option KmemCacheSLUB
  registered : forall address cache, caches address = some cache -> cache.address = address

/-- A page that cannot be read. -/
def SlubPage.unreadable : SlubPage where
  freelist := .error .memoryError
  objects := .error .memoryError
  inuse := .error .memoryError
  frozen := .error .memoryError
  slabCache := .error .memoryError
  pages := .error .memoryError
  next := .error .memoryError

/-- A system with one cache, of whose memory only what is in the tables can be
read. -/
def SlubSystem.single (cache : KmemCacheSLUB) (cpusOnline : List Nat)
    (pages : List (Nat × SlubPage)) (words : List (Nat × Nat)) : SlubSystem where
  pageClass := { pgSlab := 7 }
  pages := fun address => (pages.lookup address).getD .unreadable
  words := fun address =>
    match words.lookup address with
    | some word => .ok word
    | none => .error .memoryError
  cpusOnline := cpusOnline
  nidsPossible := [0]
  caches := fun address => if address = cache.address then some cache else none
  registered := by
    intro address known found
    split at found
    · rename_i same
      rw [← Option.some.inj found, same]
    · cases found

/-- The texts of the dictionary `cpu_slabs`. -/
inductive CpuPlace where
  | slab (cpu : Nat)
  | onPartial (cpu : Nat)
deriving DecidableEq, Repr

/-- The texts of the dictionary `node_slabs`. -/
inductive NodePlace where
  | onPartial (nid : Nat)
  | full (nid : Nat)
deriving DecidableEq, Repr

/-- Where a slab should be frozen or not. -/
inductive FrozenPlace where
  | cpu (place : CpuPlace)
  | node (place : NodePlace)
deriving DecidableEq, Repr

/-- What the two versions of `_pr_err` are called with.  The first address is
that of the cache. -/
inductive SlubReport where
  | freelistOverflow (cache cpu : Nat)
  | freelistDuplicate (cache obj found known : Nat)
  | slabTwice (cache slab : Nat) (found known : CpuPlace)
  | pagesUnexpected (cache cpu slab : Nat) (pages expected : Int)
  | pagesNotOne (cache cpu : Nat) (pages : Int)
  | partialCount (cache nid : Nat) (found expected : Int)
  | fullListNotEmpty (cache nid : Nat) (found : Int)
  | fullCount (cache : Nat) (expected found : Int)
  | slabOverflow (cache slab : Nat)
  | freeAndCached (cache slab obj cpu : Nat)
  | freeCount (cache slab : Nat) (nrFree : Int) (found : Nat)
  | frozen (cache slab expected : Nat) (place : FrozenPlace)
deriving DecidableEq, Repr

/-- The attributes of a `KmemCacheSLUB` that change.  The dictionaries are in
the order of their insertions, and `cpu_freelists` gives the processor on whose
chain an object was found. -/
structure SlubTables where
  cpuSlabs : List (Nat × CpuPlace) := []
  nodeSlabs : List (Nat × NodePlace) := []
  cpuSlabsObjects : Int := 0
  cpuSlabsFree : Int := 0
  cpuFreelists : List (Nat × Nat) := []
  cpuFreelistsSizes : List Nat
  processed : Bool := false
deriving DecidableEq, Repr

/-- The objects of all caches by address, and what was reported. -/
structure SlubWorld where
  tables : Nat -> SlubTables
  reports : List SlubReport := []

/-- How code can stop without a value. -/
inductive Halt where
  | raised (error : SlabException)
  | outOfFuel
deriving DecidableEq, Repr

/-- Code that works on the caches. -/
abbrev SlubM : Type -> Type :=
  EStateM Halt SlubWorld

/-- An exception leaves the code. -/
def halting {Value : Type} (read : Except SlabException Value) : Except Halt Value :=
  read.mapError .raised

/-- A value that gdb reads. -/
def peek {Value : Type} (read : Except GdbError Value) : SlubM Value :=
  raising (halting (fetched read))

namespace SlubWorld

/-- `_pr_err`. -/
def prErr (report : SlubReport) (world : SlubWorld) : SlubWorld :=
  { world with reports := world.reports ++ [report] }

/-- Change the object of one cache. -/
def update (cache : Nat) (change : SlubTables -> SlubTables) (world : SlubWorld) : SlubWorld :=
  { world with tables := fun address =>
      if address = cache then change (world.tables address) else world.tables address }

@[simp] theorem prErr_tables (report : SlubReport) (world : SlubWorld) :
    (world.prErr report).tables = world.tables :=
  rfl

@[simp] theorem update_reports (cache : Nat) (change : SlubTables -> SlubTables) (world : SlubWorld) :
    (world.update cache change).reports = world.reports :=
  rfl

@[simp] theorem update_tables_self (cache : Nat) (change : SlubTables -> SlubTables)
    (world : SlubWorld) : (world.update cache change).tables cache = change (world.tables cache) :=
  if_pos rfl

theorem update_tables_ne {cache other : Nat} (different : other ≠ cache)
    (change : SlubTables -> SlubTables) (world : SlubWorld) :
    (world.update cache change).tables other = world.tables other :=
  if_neg different

end SlubWorld

/-- The wrapper of a slab. -/
structure SlabSLUB where
  address : Nat
  kmemCache : KmemCacheSLUB
  nrObjects : Nat
  nrInuse : Nat
  free : Finset Nat := ∅
  freePopulated : Bool := false
  error : Bool := false

namespace SlabSLUB

/-- The attribute `nr_free`. -/
def nrFree (slab : SlabSLUB) : Int :=
  (slab.nrObjects : Int) - slab.nrInuse

variable (system : SlubSystem)

/-- The constructor. -/
def make (address : Nat) (cache : KmemCacheSLUB) : Except GdbError SlabSLUB := do
  let nrObjects <- (system.pages address).objects
  let nrInuse <- (system.pages address).inuse
  return { address := address, kmemCache := cache, nrObjects := nrObjects, nrInuse := nrInuse }

/-- `kmem_cache_from_addr`. -/
def slubCacheFromAddr (address : Nat) : Except SlabException KmemCacheSLUB :=
  match system.caches address with
  | none => .error (.kmemCacheNotFound address)
  | some cache => .ok cache

/-- `from_page_obj`: the cache is the one that the page names. -/
def fromPageObj (page : Nat) : Except SlabException SlabSLUB := do
  let address <- fetched (system.pages page).slabCache
  let cache <- slubCacheFromAddr system address
  fetched (make system page cache)

/-- A new wrapper. -/
theorem make_ok {page : Nat} {cache : KmemCacheSLUB} {slab : SlabSLUB}
    (made : make system page cache = .ok slab) :
    (system.pages page).objects = .ok slab.nrObjects ∧ (system.pages page).inuse = .ok slab.nrInuse ∧
      slab.address = page ∧ slab.kmemCache = cache ∧ slab.freePopulated = false := by
  simp only [make] at made
  cases objects : (system.pages page).objects with
  | error error =>
      rw [objects] at made
      cases made
  | ok nrObjects =>
      cases inuse : (system.pages page).inuse with
      | error error =>
          rw [objects, inuse] at made
          cases made
      | ok nrInuse =>
          rw [objects, inuse] at made
          cases made
          exact ⟨rfl, rfl, rfl, rfl, rfl⟩

/-- A wrapper from a page is new, and its cache is a known one. -/
theorem fromPageObj_ok {page : Nat} {slab : SlabSLUB} (made : fromPageObj system page = .ok slab) :
    slab.address = page ∧ slab.freePopulated = false ∧
      system.caches slab.kmemCache.address = some slab.kmemCache := by
  simp only [fromPageObj] at made
  cases named : fetched (system.pages page).slabCache with
  | error error =>
      rw [named] at made
      cases made
  | ok address =>
      rw [named] at made
      change (slubCacheFromAddr system address >>= _) = _ at made
      simp only [slubCacheFromAddr] at made
      cases found : system.caches address with
      | none =>
          rw [found] at made
          cases made
      | some cache =>
          rw [found] at made
          have new := make_ok system (fetched_eq_ok made)
          refine ⟨new.2.2.1, new.2.2.2.2, ?_⟩
          rw [new.2.2.2.1, system.registered address cache found]
          exact found

/-- `from_list_head`: the cache is the one whose list is walked. -/
def fromListHead (listHead : Nat) (cache : KmemCacheSLUB) : Except SlabException SlabSLUB :=
  fetched (make system (pointerOf ((listHead : Int) - system.lruOffset)) cache)

/-- The free pointer of an object. -/
def freePointer (cache : KmemCacheSLUB) (obj : Nat) : Except GdbError Nat :=
  system.words ((obj + cache.fpOffset) % 2 ^ 64)

/-- An object of the page freelist that is on the chain of a processor too. -/
def checkCpuFreelists (cache slab obj : Nat) (world : SlubWorld) : SlubWorld :=
  match (world.tables cache).cpuFreelists.lookup obj with
  | some cpu => world.prErr (.freeAndCached cache slab obj cpu)
  | none => world

/-- The loop of `_do_populate_free`, with the rounds that are left.  The free pointer of an
object is read when the loop tests it, after the object has been looked up. -/
def walkFreelist (slab : SlabSLUB) : Nat -> Finset Nat -> Nat -> SlubM (Finset Nat)
  | 0, free, freelist =>
      if freelist = 0 then pure free
      else do
        modify (SlubWorld.prErr (.slabOverflow slab.kmemCache.address slab.address))
        return free
  | remaining + 1, free, freelist =>
      if freelist = 0 then pure free
      else do
        modify (checkCpuFreelists slab.kmemCache.address slab.address freelist)
        let next <- peek (freePointer system slab.kmemCache freelist)
        walkFreelist slab remaining (insert freelist free) next

/-- `_do_populate_free`.  The slab is in error if something was reported. -/
def doPopulateFree (slab : SlabSLUB) : SlubM SlabSLUB := do
  let before <- get
  let freelist <- peek (system.pages slab.address).freelist
  let free <- walkFreelist system slab slab.nrObjects ∅ freelist
  (if (free.card : Int) ≠ slab.nrFree then
    modify (SlubWorld.prErr (.freeCount slab.kmemCache.address slab.address slab.nrFree free.card))
  else pure ⟨⟩)
  let after <- get
  return { slab with
    free := free
    error := slab.error || decide (before.reports.length < after.reports.length) }

/-- `populate_free`. -/
def populateFree (slab : SlabSLUB) : SlubM SlabSLUB :=
  if slab.freePopulated then pure slab
  else do
    let populated <- doPopulateFree system slab
    return { populated with freePopulated := true }

/-- `warn_frozen`. -/
def warnFrozen (slab : SlabSLUB) (expected : Nat) (place : FrozenPlace) : SlubM PUnit := do
  let frozen <- peek (system.pages slab.address).frozen
  if expected ≠ frozen then
    modify (SlubWorld.prErr (.frozen slab.kmemCache.address slab.address expected place))
  else pure ⟨⟩

/-- The attribute `base_address`. -/
def baseAddress (slab : SlabSLUB) : Int :=
  system.pageClass.pageAddr slab.address

/-- `get_objects`. -/
def getObjects (slab : SlabSLUB) : List Int :=
  (List.range slab.nrObjects).map fun idx : Nat =>
    slab.baseAddress system + slab.kmemCache.redLeftPad + idx * slab.kmemCache.size

/-- `print_objects`, of which only the reading of the free objects matters. -/
def printObjects (slab : SlabSLUB) : SlubM SlabSLUB :=
  populateFree system slab

end SlabSLUB
end Slab
end CrashPython

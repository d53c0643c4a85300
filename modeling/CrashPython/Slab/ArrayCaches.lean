import CrashPython.Library.Frame
import CrashPython.Types.ListRun
import CrashPython.Types.Page

namespace CrashPython
namespace Slab

open Library Types

/-!
# The array caches of a `KmemCacheSLAB`

A SLAB cache keeps pointers to free objects in array caches: one for each
processor, one shared cache for each node, and alien caches for the objects of
other nodes.  `get_array_caches` gathers all of them in one dictionary, which
it fills when it finds the dictionary empty.

The fill reads memory that does not change, so the order of its reads is known
before it runs.  `cachedReads` is that order, with the reads that fail among the
pointers; a pointer enters the dictionary before the page behind it is looked
up.  `CachedPointer` says what it means to sit in an array cache without
reference to any order.
-/

/-- The exceptions that can leave the slab code: those of gdb, the delayed
lookup of a symbol that is not there, a cache that is not known, a division by
the size of objects without a size, a list that cannot be read, a value that
cannot be printed in the way that is asked for, and an index out of range. -/
inductive SlabException where
  | gdb (error : GdbError)
  | delayedAttribute
  | kmemCacheNotFound (address : Nat)
  | zeroDivision
  | listFailure (error : ListError)
  | typeError
  | indexError
deriving DecidableEq, Repr

/-- A `struct array_cache`. -/
structure ArrayCache where
  avail : Except GdbError Nat
  entry : Nat -> Except GdbError Nat

/-- The pointer is one of the available entries of an array cache. -/
def ArrayCache.Holds (acache : ArrayCache) (ptr : Nat) : Prop :=
  Exists fun avail : Nat => Exists fun i : Nat =>
    acache.avail = .ok avail ∧ i < avail ∧ acache.entry i = .ok ptr

/-- The attribute `ac_type` of a dictionary entry. -/
inductive ACType where
  | percpu
  | shared
  | alien
deriving DecidableEq, Repr

/-- The dictionary that describes where a pointer was found. -/
structure ArrayCacheEntry where
  acType : ACType
  nidSrc : Int
  nidTgt : Int
deriving DecidableEq, Repr

/-- The node of a cache, `struct kmem_list3` or `struct kmem_cache_node`.  A null
pointer is `none`; the three lists are given by the addresses of their heads. -/
structure SlabNode where
  freeObjects : Except GdbError Nat := .error .memoryError
  slabsPartial : Nat := 0
  slabsFull : Nat := 0
  slabsFree : Nat := 0
  shared : Except GdbError (Option ArrayCache)
  alien : Except GdbError (Option (Nat -> Except GdbError (Option ArrayCache)))

/-- The fields of a slab, a `struct page` or a `struct slab`: the number of its
allocated objects, its first object, and the indices of its free objects.  The
name of the first one, and the meaning of `index`, depend on the form. -/
structure SlabStruct where
  inuse : Except GdbError Nat
  sMem : Except GdbError Nat
  free : Except GdbError Nat := .error .memoryError
  index : Nat -> Except GdbError Nat := fun _ => .error .memoryError

/-- The attributes of a `KmemCacheSLAB` that are fetched when it is made, and
its memory. -/
structure KmemCacheFields where
  name : String
  address : Nat
  bufferSize : Nat
  objsPerSlab : Nat
  offSlab : Bool := false
  percpu : Nat -> Except SlabException ArrayCache
  nodelist : Nat -> Except GdbError (Option SlabNode)

/-- What all SLAB caches share.  The class attribute `page_slab` says which form
of slabs the kernel has, and `kmemCaches` is the dictionary of the known caches
by address.  A slab is on its list through a list head at some offset. -/
structure SlabSystem where
  pageSlab : Bool
  lists : ListMemory := .empty
  slabListOffset : Nat := 0
  pageClass : PageClass
  pages : PageMemory
  slabs : Nat -> SlabStruct
  kmemCaches : Nat -> Option KmemCacheFields := fun _ => none
  cpusOnline : List Nat
  nidsPossible : List Nat
  numaNodeId : Nat -> Except SlabException Nat

/-- A `KmemCacheSLAB`. -/
structure KmemCacheSLAB extends SlabSystem, KmemCacheFields

/-- `kmem_cache_from_addr`. -/
def kmemCacheFromAddr (system : SlabSystem) (address : Nat) : Except SlabException KmemCacheSLAB :=
  match system.kmemCaches address with
  | none => .error (.kmemCacheNotFound address)
  | some fields => .ok ⟨system, fields⟩

/-- The messages of the fill. -/
inductive ArrayCacheReport where
  | duplicate (ptr : Nat) (found known : ArrayCacheEntry)
  | wrongNid (ptr : Nat) (found : ArrayCacheEntry) (objNid nidTgt : Nat)
deriving DecidableEq, Repr

/-- The attribute `array_caches`, a dictionary in the order of its insertions,
and what was printed. -/
structure ArrayCaches where
  table : List (Nat × ArrayCacheEntry) := []
  reports : List ArrayCacheReport := []
deriving DecidableEq, Repr

/-- Code that works on the dictionary and can be left by an exception. -/
abbrev FillM : Type -> Type :=
  EStateM SlabException ArrayCaches

theorem mapError_eq_ok {Error Other Value : Type} {change : Error -> Other}
    {read : Except Error Value} {value : Value} (success : read.mapError change = .ok value) :
    read = .ok value := by
  cases read with
  | error error => cases success
  | ok found => exact congrArg Except.ok (Except.ok.inj success)

/-- A value that gdb reads, or its exception. -/
def fetched {Value : Type} (read : Except GdbError Value) : Except SlabException Value :=
  read.mapError .gdb

theorem fetched_eq_ok {Value : Type} {read : Except GdbError Value} {value : Value}
    (success : fetched read = .ok value) : read = .ok value :=
  mapError_eq_ok success

namespace ArrayCaches

/-- Enter a pointer, or report that it is there already. -/
def enter (ptr : Nat) (found : ArrayCacheEntry) (caches : ArrayCaches) : ArrayCaches :=
  match caches.table.lookup ptr with
  | some known => { caches with reports := caches.reports ++ [.duplicate ptr found known] }
  | none => { caches with table := caches.table ++ [(ptr, found)] }

/-- Compare the node of an object with the one it should be on. -/
def compareNid (ptr : Nat) (found : ArrayCacheEntry) (objNid nidTgt : Nat) (caches : ArrayCaches) :
    ArrayCaches :=
  if objNid = nidTgt then caches
  else { caches with reports := caches.reports ++ [.wrongNid ptr found objNid nidTgt] }

/-- An empty dictionary. -/
def reset (caches : ArrayCaches) : ArrayCaches :=
  { caches with table := [] }

/-- The keys of the dictionary. -/
def pointers (caches : ArrayCaches) : Set Nat :=
  {ptr | ptr ∈ caches.table.map Prod.fst}

end ArrayCaches

namespace KmemCacheSLAB

variable (cache : KmemCacheSLAB)

/-- `for_each_nid`. -/
def forEachNid : Except SlabException (List Nat) :=
  if cache.nidsPossible = [] then .error .delayedAttribute else .ok cache.nidsPossible

/-- `_get_nodelists`, with what its consumer does for each node. -/
def forNodelists {State : Type} (body : Nat -> SlabNode -> EStateM SlabException State PUnit) :
    EStateM SlabException State PUnit := do
  let nids <- raising cache.forEachNid
  nids.forM fun nid => do
    let node <- raising (fetched (cache.nodelist nid))
    node.forM (body nid)

/-- The second half of the loop body of `__fill_array_cache`. -/
def checkEntryNid (ptr : Nat) (found : ArrayCacheEntry) (nidTgt : Nat) : FillM PUnit := do
  let page <- raising (fetched (Page.fromAddr cache.pageClass cache.pages ptr))
  modify (ArrayCaches.compareNid ptr found (page.getNid cache.pageClass) nidTgt)

/-- The loop body of `__fill_array_cache`. -/
def fillEntry (found : ArrayCacheEntry) (nidTgt : Nat) (read : Except GdbError Nat) : FillM PUnit := do
  let ptr <- raising (fetched read)
  modify (ArrayCaches.enter ptr found)
  cache.checkEntryNid ptr found nidTgt

/-- The node the objects of an array cache should be on.  The number that is
given for the cache of a processor is that of the processor. -/
def targetNid : ACType -> Nat -> Except SlabException Nat
  | .percpu, cpu => cache.numaNodeId cpu
  | _, nid => .ok nid

/-- `__fill_array_cache`.  The node of a processor is looked up after the entry
has been made, which keeps the number of the processor. -/
def fillArrayCache (acache : ArrayCache) (acType : ACType) (nidSrc : Int) (nidTgt : Nat) :
    FillM PUnit := do
  let avail <- raising (fetched acache.avail)
  if avail = 0 then pure ⟨⟩
  else do
    let nid <- raising (cache.targetNid acType nidTgt)
    (List.range avail).forM fun i => cache.fillEntry ⟨acType, nidSrc, nidTgt⟩ nid (acache.entry i)

/-- One round of `__fill_alien_caches`.  A node has no alien cache of its own,
and the pointer found there in some kernels is passed over. -/
def fillAlienCache (nidSrc nid : Nat) (array : ArrayCache) : FillM PUnit :=
  if nidSrc = nid then pure ⟨⟩ else cache.fillArrayCache array .alien nidSrc nid

/-- `__fill_alien_caches`.  The pointer is read before the node is compared. -/
def fillAlienCaches (node : SlabNode) (nidSrc : Nat) : FillM PUnit := do
  let alien <- raising (fetched node.alien)
  alien.forM fun alien => do
    let nids <- raising cache.forEachNid
    nids.forM fun nid => do
      let array <- raising (fetched (alien nid))
      array.forM (cache.fillAlienCache nidSrc nid)

/-- `__fill_percpu_caches`. -/
def fillPercpuCaches : FillM PUnit :=
  cache.cpusOnline.forM fun cpu => do
    let array <- raising (cache.percpu cpu)
    cache.fillArrayCache array .percpu (-1) cpu

/-- The body of the node loop of `__fill_all_array_caches`. -/
def fillNode (nid : Nat) (node : SlabNode) : FillM PUnit := do
  let shared <- raising (fetched node.shared)
  shared.forM fun shared => cache.fillArrayCache shared .shared nid nid
  cache.fillAlienCaches node nid

/-- `__fill_all_array_caches`. -/
def fillAllArrayCaches : FillM PUnit := do
  modify ArrayCaches.reset
  cache.fillPercpuCaches
  cache.forNodelists cache.fillNode

/-- `get_array_caches`. -/
def getArrayCaches : FillM (List (Nat × ArrayCacheEntry)) := do
  let before <- get
  (if before.table = [] then cache.fillAllArrayCaches else pure ⟨⟩)
  let caches <- get
  pure caches.table

/-! ## The reads of a fill -/

/-- The reads for one entry: the pointer, and its page. -/
def entryReads (read : Except GdbError Nat) : List (Except SlabException Nat) :=
  readThen (fetched read) fun ptr =>
    .ok ptr :: readThen (fetched (Page.fromAddr cache.pageClass cache.pages ptr)) fun _ => []

/-- The reads of `__fill_array_cache`. -/
def arrayCacheReads (acType : ACType) (nidTgt : Nat) (acache : ArrayCache) :
    List (Except SlabException Nat) :=
  readThen (fetched acache.avail) fun avail =>
    if avail = 0 then []
    else readThen (cache.targetNid acType nidTgt) fun _ =>
      (List.range avail).flatMap fun i => cache.entryReads (acache.entry i)

/-- The reads of `__fill_percpu_caches`. -/
def percpuReads (cpu : Nat) : List (Except SlabException Nat) :=
  readThen (cache.percpu cpu) fun array => cache.arrayCacheReads .percpu cpu array

/-- The reads for one alien cache. -/
def alienCacheReads (nidSrc nid : Nat) (read : Except GdbError (Option ArrayCache)) :
    List (Except SlabException Nat) :=
  readThen (fetched read) fun array => array.elim [] fun array =>
    if nidSrc = nid then [] else cache.arrayCacheReads .alien nid array

/-- The reads of `__fill_alien_caches`. -/
def alienReads (nidSrc : Nat) (node : SlabNode) : List (Except SlabException Nat) :=
  readThen (fetched node.alien) fun alien => alien.elim [] fun alien =>
    readThen cache.forEachNid fun nids =>
      nids.flatMap fun nid => cache.alienCacheReads nidSrc nid (alien nid)

/-- The reads for a node. -/
def nodeReads (nid : Nat) (node : SlabNode) : List (Except SlabException Nat) :=
  readThen (fetched node.shared) fun shared =>
    shared.elim [] (cache.arrayCacheReads .shared nid) ++ cache.alienReads nid node

/-- All reads of a fill, in the order of the source. -/
def cachedReads : List (Except SlabException Nat) :=
  cache.cpusOnline.flatMap cache.percpuReads ++
    readThen cache.forEachNid fun nids => nids.flatMap fun nid =>
      readThen (fetched (cache.nodelist nid)) fun node => node.elim [] (cache.nodeReads nid)

section Reads

variable {cache}

theorem enter_pointers (ptr : Nat) (found : ArrayCacheEntry) (caches : ArrayCaches) :
    (caches.enter ptr found).pointers = caches.pointers ∪ {ptr} := by
  ext other
  simp only [ArrayCaches.enter, ArrayCaches.pointers]
  cases known : caches.table.lookup ptr with
  | none =>
      simp only [List.map_append, List.map_cons, List.map_nil, Set.mem_ofPred_eq, List.mem_append,
        List.mem_singleton, Set.mem_union, Set.mem_singleton_iff]
  | some entry =>
      simp only [Set.mem_ofPred_eq, Set.mem_union, Set.mem_singleton_iff]
      constructor
      · exact Or.inl
      · rintro (member | rfl)
        · exact member
        · rcases List.lookup_eq_some_iff.mp known with ⟨before, rest, shape, _⟩
          rw [shape]
          simp only [List.map_append, List.map_cons, List.mem_append, List.mem_cons, true_or, or_true]

theorem compareNid_pointers (ptr : Nat) (found : ArrayCacheEntry) (objNid nidTgt : Nat)
    (caches : ArrayCaches) :
    (caches.compareNid ptr found objNid nidTgt).pointers = caches.pointers := by
  simp only [ArrayCaches.compareNid]
  split
  · rfl
  · rfl

theorem fillEntry_follows (found : ArrayCacheEntry) (nidTgt : Nat) (read : Except GdbError Nat) :
    Follows ArrayCaches.pointers (cache.entryReads read) (cache.fillEntry found nidTgt read) := by
  apply Follows.reads
  intro ptr
  apply Follows.andThen (Follows.add (enter_pointers ptr found))
  apply Follows.reads
  intro page
  exact Follows.update (compareNid_pointers ptr found _ nidTgt)

theorem fillArrayCache_follows (acache : ArrayCache) (acType : ACType) (nidSrc : Int) (nidTgt : Nat) :
    Follows ArrayCaches.pointers (cache.arrayCacheReads acType nidTgt acache)
      (cache.fillArrayCache acache acType nidSrc nidTgt) := by
  apply Follows.reads
  intro avail
  by_cases empty : avail = 0
  · rw [if_pos empty, if_pos empty]
    exact Follows.idle
  · rw [if_neg empty, if_neg empty]
    apply Follows.reads
    intro nid
    apply Follows.loop
    intro i _
    exact fillEntry_follows _ _ _

/-- A pointer that may be null. -/
theorem follows_pointer {Target : Type} (pointer : Option Target)
    {trace : Target -> List (Except SlabException Nat)} {body : Target -> FillM PUnit}
    (continues : forall target, Follows ArrayCaches.pointers (trace target) (body target)) :
    Follows ArrayCaches.pointers (pointer.elim [] trace) (pointer.forM body) := by
  cases pointer with
  | none => exact Follows.idle
  | some target => exact continues target

theorem fillAlienCaches_follows (node : SlabNode) (nidSrc : Nat) :
    Follows ArrayCaches.pointers (cache.alienReads nidSrc node) (cache.fillAlienCaches node nidSrc) := by
  apply Follows.reads
  intro alien
  apply follows_pointer
  intro alien
  apply Follows.reads
  intro nids
  apply Follows.loop
  intro nid _
  apply Follows.reads
  intro array
  apply follows_pointer
  intro array
  simp only [fillAlienCache]
  by_cases own : nidSrc = nid
  · rw [if_pos own, if_pos own]
    exact Follows.idle
  · rw [if_neg own, if_neg own]
    exact fillArrayCache_follows array .alien nidSrc nid

theorem fillPercpuCaches_follows :
    Follows ArrayCaches.pointers (cache.cpusOnline.flatMap cache.percpuReads)
      cache.fillPercpuCaches := by
  apply Follows.loop
  intro cpu _
  apply Follows.reads
  intro array
  exact fillArrayCache_follows array .percpu (-1) cpu

theorem fillNode_follows (nid : Nat) (node : SlabNode) :
    Follows ArrayCaches.pointers (cache.nodeReads nid node) (cache.fillNode nid node) := by
  apply Follows.reads
  intro shared
  apply Follows.andThen
  · exact follows_pointer shared fun shared => fillArrayCache_follows shared .shared nid nid
  · exact fillAlienCaches_follows node nid

/-- A fill collects the pointers it reads before the first failing read, and
ends with that failure. -/
theorem fillAllArrayCaches_run (caches : ArrayCaches) :
    Exists fun after : ArrayCaches =>
      cache.fillAllArrayCaches.run caches = conclude (failure cache.cachedReads) after ∧
        after.pointers = {ptr | ptr ∈ seen cache.cachedReads} := by
  have fill : Follows ArrayCaches.pointers cache.cachedReads
      (cache.fillPercpuCaches >>= fun _ => cache.forNodelists cache.fillNode) := by
    apply Follows.andThen fillPercpuCaches_follows
    apply Follows.reads
    intro nids
    apply Follows.loop
    intro nid _
    apply Follows.reads
    intro node
    exact follows_pointer node (fillNode_follows nid)
  rcases fill caches.reset with ⟨after, ran, gathered⟩
  refine ⟨after, ran, ?_⟩
  rw [gathered]
  ext ptr
  simp only [ArrayCaches.pointers, ArrayCaches.reset, List.map_nil, Set.mem_union, Set.mem_ofPred_eq,
    List.not_mem_nil, false_or]

end Reads

/-! ## The pointers in the array caches -/

/-- A pointer sits in one of the array caches of the cache. -/
inductive CachedPointer (ptr : Nat) : Prop where
  | percpu {cpu : Nat} {array : ArrayCache} (online : cpu ∈ cache.cpusOnline)
      (found : cache.percpu cpu = .ok array) (holds : array.Holds ptr) : CachedPointer ptr
  | shared {nid : Nat} {node : SlabNode} {array : ArrayCache} (possible : nid ∈ cache.nidsPossible)
      (known : cache.nodelist nid = .ok (some node)) (found : node.shared = .ok (some array))
      (holds : array.Holds ptr) : CachedPointer ptr
  | alien {nidSrc nid : Nat} {node : SlabNode} {alien : Nat -> Except GdbError (Option ArrayCache)}
      {array : ArrayCache} (source : nidSrc ∈ cache.nidsPossible)
      (known : cache.nodelist nidSrc = .ok (some node)) (possible : nid ∈ cache.nidsPossible)
      (table : node.alien = .ok (some alien)) (found : alien nid = .ok (some array))
      (foreign : nidSrc ≠ nid) (holds : array.Holds ptr) : CachedPointer ptr

variable {cache}

theorem mem_readThen {Found Value : Type} {read : Except SlabException Found} {value : Value}
    {trace : Found -> List (Except SlabException Value)} (member : .ok value ∈ readThen read trace) :
    Exists fun found : Found => read = .ok found ∧ .ok value ∈ trace found := by
  cases read with
  | error error => cases List.mem_singleton.mp member
  | ok found => exact ⟨found, rfl, member⟩

theorem forEachNid_eq_ok {nids : List Nat} (success : cache.forEachNid = .ok nids) :
    nids = cache.nidsPossible := by
  simp only [forEachNid] at success
  split at success
  · cases success
  · exact (Except.ok.inj success).symm

theorem mem_pointer {Target Value : Type} {pointer : Option Target} {value : Value}
    {trace : Target -> List (Except SlabException Value)} (member : .ok value ∈ pointer.elim [] trace) :
    Exists fun target : Target => pointer = some target ∧ .ok value ∈ trace target := by
  cases pointer with
  | none => cases member
  | some target => exact ⟨target, rfl, member⟩

theorem holds_of_mem_arrayCacheReads {acType : ACType} {nidTgt ptr : Nat} {acache : ArrayCache}
    (member : .ok ptr ∈ cache.arrayCacheReads acType nidTgt acache) : acache.Holds ptr := by
  rcases mem_readThen member with ⟨avail, readable, member⟩
  by_cases empty : avail = 0
  · rw [if_pos empty] at member
    cases member
  · rw [if_neg empty] at member
    rcases mem_readThen member with ⟨_, _, member⟩
    rcases List.mem_flatMap.mp member with ⟨i, bounded, member⟩
    rcases mem_readThen member with ⟨entry, found, member⟩
    refine ⟨avail, i, fetched_eq_ok readable, List.mem_range.mp bounded, ?_⟩
    rcases List.mem_cons.mp member with same | later
    · rw [fetched_eq_ok found, ← Except.ok.inj same]
    · rcases mem_readThen later with ⟨_, _, none⟩
      cases none

/-- Whatever a fill reads sits in an array cache. -/
theorem cachedPointer_of_mem {ptr : Nat} (member : .ok ptr ∈ cache.cachedReads) :
    cache.CachedPointer ptr := by
  rcases List.mem_append.mp member with percpu | nodes
  · rcases List.mem_flatMap.mp percpu with ⟨cpu, online, member⟩
    rcases mem_readThen member with ⟨array, found, member⟩
    exact .percpu online found (holds_of_mem_arrayCacheReads member)
  · rcases mem_readThen nodes with ⟨nids, success, member⟩
    rw [forEachNid_eq_ok success] at member
    rcases List.mem_flatMap.mp member with ⟨nid, possible, member⟩
    rcases mem_readThen member with ⟨pointer, found, member⟩
    rcases mem_pointer member with ⟨node, rfl, member⟩
    have known := fetched_eq_ok found
    rcases mem_readThen member with ⟨shared, sharedFound, member⟩
    rcases List.mem_append.mp member with inShared | inAlien
    · rcases mem_pointer inShared with ⟨array, rfl, inArray⟩
      exact .shared possible known (fetched_eq_ok sharedFound) (holds_of_mem_arrayCacheReads inArray)
    · rcases mem_readThen inAlien with ⟨pointer, alienFound, member⟩
      rcases mem_pointer member with ⟨alien, rfl, member⟩
      rcases mem_readThen member with ⟨targets, targetSuccess, member⟩
      rw [forEachNid_eq_ok targetSuccess] at member
      rcases List.mem_flatMap.mp member with ⟨target, targetPossible, member⟩
      rcases mem_readThen member with ⟨pointer, arrayFound, member⟩
      rcases mem_pointer member with ⟨array, rfl, inArray⟩
      by_cases own : nid = target
      · rw [if_pos own] at inArray
        cases inArray
      · rw [if_neg own] at inArray
        exact .alien possible known targetPossible (fetched_eq_ok alienFound)
          (fetched_eq_ok arrayFound) own (holds_of_mem_arrayCacheReads inArray)

/-! ## Calls after a fill that was left by an exception -/

variable (cache)

/-- The dictionary after some calls of `get_array_caches`, whatever became of
them. -/
def afterCalls : Nat -> ArrayCaches
  | 0 => {}
  | calls + 1 => finalState (cache.getArrayCaches.run (afterCalls calls))

/-- A call on an empty dictionary is a fill. -/
theorem getArrayCaches_empty {caches : ArrayCaches} (empty : caches.table = []) :
    Exists fun after : ArrayCaches =>
      after.pointers = {ptr | ptr ∈ seen cache.cachedReads} ∧
        cache.getArrayCaches.run caches = match failure cache.cachedReads with
          | none => .ok after.table after
          | some error => .error error after := by
  rcases fillAllArrayCaches_run caches with ⟨after, ran, gathered⟩
  refine ⟨after, gathered, ?_⟩
  simp only [getArrayCaches, EStateM.run_bind, EStateM.run_get, if_pos empty, ran]
  cases failure cache.cachedReads with
  | none => rfl
  | some error => rfl

variable {cache}

/-- A call on a dictionary with entries returns it. -/
theorem getArrayCaches_filled {caches : ArrayCaches} (filled : caches.table ≠ []) :
    cache.getArrayCaches.run caches = .ok caches.table caches := by
  simp only [getArrayCaches, EStateM.run_bind, EStateM.run_get, if_neg filled, EStateM.run_pure]

/-- The value of a call is the dictionary it leaves behind. -/
theorem getArrayCaches_eq_ok {caches after : ArrayCaches} {table : List (Nat × ArrayCacheEntry)}
    (ran : cache.getArrayCaches.run caches = .ok table after) : table = after.table := by
  by_cases empty : caches.table = []
  · rcases getArrayCaches_empty cache empty with ⟨filled, _, same⟩
    rw [same] at ran
    cases failed : failure cache.cachedReads with
    | none =>
        rw [failed] at ran
        cases ran
        rfl
    | some error =>
        rw [failed] at ran
        cases ran
  · rw [getArrayCaches_filled empty] at ran
    cases ran
    rfl

theorem pointers_eq_empty {caches : ArrayCaches} :
    caches.table = [] <-> caches.pointers = ∅ := by
  rw [Set.eq_empty_iff_forall_notMem]
  constructor
  · intro empty ptr member
    rw [ArrayCaches.pointers, empty] at member
    cases member
  · intro none
    cases shape : caches.table with
    | nil => rfl
    | cons entry rest =>
        refine False.elim (none entry.1 ?_)
        rw [ArrayCaches.pointers, shape]
        exact List.mem_cons_self

/-- The keys after one call or more are the pointers of a fill. -/
theorem afterCalls_pointers (calls : Nat) :
    (cache.afterCalls (calls + 1)).pointers = {ptr | ptr ∈ seen cache.cachedReads} := by
  induction calls with
  | zero =>
      rcases getArrayCaches_empty cache (show ({} : ArrayCaches).table = [] from rfl) with ⟨after, gathered, ran⟩
      rw [afterCalls, afterCalls, ran, ← gathered]
      cases failure cache.cachedReads with
      | none => rfl
      | some error => rfl
  | succ calls inductionHypothesis =>
      by_cases empty : (cache.afterCalls (calls + 1)).table = []
      · rcases getArrayCaches_empty cache empty with ⟨after, gathered, ran⟩
        rw [afterCalls, ran, ← gathered]
        cases failure cache.cachedReads with
        | none => rfl
        | some error => rfl
      · rw [afterCalls, getArrayCaches_filled empty]
        exact inductionHypothesis

end KmemCacheSLAB
end Slab
end CrashPython

import CrashPython.Slab.SlubQueries

namespace CrashPython
namespace Slab

open Library Types

/-!
# Consistent images of a cache

In a consistent image every slab of a cache is in one place: it is the active
slab of a processor, on the partial list of a processor or of a node, or full.
The chain of a slab runs through its free objects, and the chain of a processor
through objects of its active slab that are not on the chain of any slab.

`SlubImage` says what is where, and `Consistent` that memory is accordingly.
-/

/-- What is known of a node: the numbers it keeps, and the slabs on its lists. -/
structure NodeImage where
  nrSlabs : Int
  nrObjs : Int
  nrPartial : Int
  onPartial : List Nat
  onFull : List Nat

/-- The slabs of a cache with their free objects, what each processor holds, and
the nodes. -/
structure SlubImage where
  slabs : List Nat
  nrObjects : Nat -> Nat
  nrInuse : Nat -> Nat
  free : Nat -> List Nat
  lockless : Nat -> List Nat
  active : Nat -> Nat
  onPartial : Nat -> List Nat
  node : Nat -> Option NodeImage
  full : List Nat

namespace SlubImage

variable (image : SlubImage) (system : SlubSystem) (cache : KmemCacheSLUB)

/-- The wrapper of a slab. -/
def slab (page : Nat) : SlabSLUB where
  address := page
  kmemCache := cache
  nrObjects := image.nrObjects page
  nrInuse := image.nrInuse page

/-- The objects of a slab. -/
def objects (page : Nat) : List Int :=
  (image.slab cache page).getObjects system

/-- The slabs that the processors hold, in the order of the scan. -/
def held : List Nat :=
  system.cpusOnline.flatMap fun cpu => KmemCacheSLUB.holdings (image.active cpu) (image.onPartial cpu)

/-- The objects on the chains of the processors, in the order of the scan. -/
def cached : List Nat :=
  system.cpusOnline.flatMap image.lockless

/-- The slabs on the partial lists of the nodes. -/
def listed : List Nat :=
  system.nidsPossible.flatMap fun nid => (image.node nid).elim [] NodeImage.onPartial

/-- A slab is in memory, and its chain runs through its free objects. -/
structure SlabThere (page : Nat) : Prop where
  word : page < 2 ^ 64
  nrObjects : (system.pages page).objects = .ok (image.nrObjects page)
  nrInuse : (system.pages page).inuse = .ok (image.nrInuse page)
  slabCache : (system.pages page).slabCache = .ok cache.address
  frozen : Exists fun frozen : Nat => (system.pages page).frozen = .ok frozen
  pages : Exists fun pages : Int => (system.pages page).pages = .ok pages
  freelist : Exists fun first : Nat => (system.pages page).freelist = .ok first ∧
    NullTerminated (SlabSLUB.freePointer system cache) first (image.free page)
  distinct : (image.free page).Nodup
  count : (image.free page).length + image.nrInuse page = image.nrObjects page
  own : forall obj, obj ∈ image.free page -> (obj : Int) ∈ image.objects system cache page

/-- A processor is in memory.  Its chain runs through objects of its active slab. -/
structure CpuThere (cpu : Nat) : Prop where
  cpuSlab : Exists fun cpuSlab : KmemCacheCpu => cache.cpuSlab cpu = .ok cpuSlab ∧
    cpuSlab.page = .ok (image.active cpu) ∧
    (Exists fun first : Nat => cpuSlab.freelist = .ok first ∧
      NullTerminated (SlabSLUB.freePointer system cache) first (image.lockless cpu)) ∧
    Exists fun first : Nat => cpuSlab.onPartial = .ok first ∧
      NullTerminated (KmemCacheSLUB.nextLink system) first (image.onPartial cpu)
  distinct : (image.lockless cpu).Nodup
  own : forall obj, obj ∈ image.lockless cpu ->
    image.active cpu ≠ 0 ∧ (obj : Int) ∈ image.objects system cache (image.active cpu)
  apart : forall obj, obj ∈ image.lockless cpu ->
    forall page, page ∈ image.slabs -> obj ∉ image.free page

/-- The list with the given head runs through the slabs. -/
def Listed (head : Nat) (pages : List Nat) : Prop :=
  ListRing system.lists.image {} head (pages.map fun page => page + system.lruOffset) ∧
    BackLinked system.lists.image {} head (pages.map fun page => page + system.lruOffset)

/-- A node number is in memory.  Only full slabs are on the full list. -/
structure NodeThere (nid : Nat) : Prop where
  absent : image.node nid = none -> cache.nodelist nid = .ok none
  present : forall node, image.node nid = some node ->
    Exists fun read : KmemCacheNode => cache.nodelist nid = .ok (some read) ∧
      read.nrSlabs = .ok node.nrSlabs ∧ read.totalObjects = .ok node.nrObjs ∧
      read.nrPartial = .ok node.nrPartial ∧ Listed system read.partialList node.onPartial ∧
      Listed system read.fullList node.onFull ∧ node.onFull ⊆ image.full

/-- The image of a cache is consistent. -/
structure Consistent : Prop where
  known : system.caches cache.address = some cache
  cpus : system.cpusOnline = List.range system.cpusOnline.length
  nids : system.nidsPossible ≠ []
  places : image.slabs.Perm (image.held system ++ image.listed system ++ image.full)
  distinct : image.slabs.Nodup
  nonNull : 0 ∉ image.slabs
  full : forall page, page ∈ image.full -> image.nrInuse page = image.nrObjects page
  apart : (image.slabs.flatMap (image.objects system cache)).Nodup
  slab : forall page, page ∈ image.slabs -> image.SlabThere system cache page
  cpu : forall cpu, cpu ∈ system.cpusOnline -> image.CpuThere system cache cpu
  node : forall nid, nid ∈ system.nidsPossible -> image.NodeThere system cache nid

/-! ## What is read from a consistent image -/

section Reading

variable {image system cache}

theorem objects_length (page : Nat) :
    (image.objects system cache page).length = image.nrObjects page := by
  simp only [objects, SlabSLUB.getObjects]
  rw [List.length_map, List.length_range]
  rfl

namespace SlabThere

variable {page : Nat} (there : image.SlabThere system cache page)

include there

theorem make : SlabSLUB.make system page cache = .ok (image.slab cache page) := by
  simp only [SlabSLUB.make]
  rw [there.nrObjects, there.nrInuse]
  rfl

theorem fromPageObj (known : system.caches cache.address = some cache) :
    SlabSLUB.fromPageObj system page = .ok (image.slab cache page) := by
  simp only [SlabSLUB.fromPageObj, SlabSLUB.slubCacheFromAddr]
  rw [there.slabCache]
  simp only [fetched, Except.mapError, bind, Except.bind, known, there.make]

theorem fromListHead :
    SlabSLUB.fromListHead system (page + system.lruOffset) cache = .ok (image.slab cache page) := by
  have pointer : pointerOf (((page + system.lruOffset : Nat) : Int) - system.lruOffset) = page := by
    have word := there.word
    simp only [pointerOf]
    omega
  simp only [SlabSLUB.fromListHead]
  rw [pointer, there.make]
  rfl

theorem freeObjects :
    SlabSLUB.freeObjects system (image.slab cache page) = .ok (image.free page).toFinset := by
  rcases there.freelist with ⟨first, read, chain⟩
  have fits : (image.free page).length ≤ image.nrObjects page := by
    rw [← there.count]
    exact Nat.le_add_right _ _
  have walk := chainWalk_of_nullTerminated chain fits
  simp only [SlabSLUB.freeObjects]
  change (halting (fetched (system.pages page).freelist) >>= fun freelist =>
    SlabSLUB.gathered ∅ (chainWalk (SlabSLUB.freePointer system cache) (image.nrObjects page)
      freelist)) = _
  rw [read]
  change SlabSLUB.gathered ∅ (chainWalk _ _ first) = _
  rw [walk]
  simp only [SlabSLUB.gathered]
  simp only [Finset.empty_union]

end SlabThere

/-- Objects of a slab that are all different are at most as many as the slab has. -/
theorem length_le_nrObjects {page : Nat} {chain : List Nat} (distinct : chain.Nodup)
    (own : forall obj, obj ∈ chain -> (obj : Int) ∈ image.objects system cache page) :
    chain.length ≤ image.nrObjects page := by
  have different : (chain.map Int.ofNat).Nodup :=
    distinct.map fun first second same => Int.ofNat.inj same
  have inside : chain.map Int.ofNat ⊆ image.objects system cache page := by
    intro value member
    rcases List.mem_map.mp member with ⟨obj, inChain, rfl⟩
    exact own obj inChain
  have shorter := (List.subperm_of_subset different inside).length_le
  rw [List.length_map, objects_length] at shorter
  exact shorter

namespace Consistent

variable (consistent : image.Consistent system cache)

include consistent

theorem mem_slabs {page : Nat} : page ∈ image.slabs <->
    page ∈ image.held system ∨ page ∈ image.listed system ∨ page ∈ image.full := by
  rw [consistent.places.mem_iff, List.mem_append, List.mem_append, or_assoc]

/-- A slab that a processor holds. -/
theorem mem_held {cpu page : Nat} (online : cpu ∈ system.cpusOnline)
    (member : page ∈ KmemCacheSLUB.holdings (image.active cpu) (image.onPartial cpu)) :
    page ∈ image.slabs :=
  consistent.mem_slabs.mpr (.inl (List.mem_flatMap.mpr ⟨cpu, online, member⟩))

theorem active_mem {cpu : Nat} (online : cpu ∈ system.cpusOnline) (nonNull : image.active cpu ≠ 0) :
    image.active cpu ∈ image.slabs := by
  apply consistent.mem_held online
  simp only [KmemCacheSLUB.holdings]
  rw [if_neg nonNull]
  exact List.mem_append_left _ List.mem_cons_self

theorem onPartial_mem {cpu page : Nat} (online : cpu ∈ system.cpusOnline)
    (member : page ∈ image.onPartial cpu) : page ∈ image.slabs :=
  consistent.mem_held online (List.mem_append_right _ member)

theorem listed_mem {nid page : Nat} {node : NodeImage} (possible : nid ∈ system.nidsPossible)
    (found : image.node nid = some node) (member : page ∈ node.onPartial) : page ∈ image.slabs := by
  apply consistent.mem_slabs.mpr
  refine .inr (.inl (List.mem_flatMap.mpr ⟨nid, possible, ?_⟩))
  rw [found]
  exact member

theorem held_nodup : (image.held system).Nodup := by
  have all := consistent.places.nodup_iff.mp consistent.distinct
  exact (List.nodup_append.mp (List.nodup_append.mp all).1).1

/-- The chain of a processor is walked to its end. -/
theorem lockless {cpu : Nat} (online : cpu ∈ system.cpusOnline) :
    Exists fun cpuSlab : KmemCacheCpu => cache.cpuSlab cpu = .ok cpuSlab ∧
      KmemCacheSLUB.lockless system cache cpuSlab = .ok (image.lockless cpu, .null) := by
  have there := consistent.cpu cpu online
  rcases there.cpuSlab with ⟨cpuSlab, read, page, ⟨first, freelist, chain⟩, _⟩
  refine ⟨cpuSlab, read, ?_⟩
  simp only [KmemCacheSLUB.lockless]
  rw [freelist]
  change (if first = 0 then _ else _) = _
  by_cases null : first = 0
  · rw [if_pos null]
    rw [null] at chain
    rw [chain.of_null]
    rfl
  · have used := (there.own first (chain.first_mem null)).1
    have slab := consistent.slab _ (consistent.active_mem online used)
    rw [if_neg null, page]
    change ((system.pages (image.active cpu)).objects >>= fun nrObjects =>
      pure (chainWalk (SlabSLUB.freePointer system cache) nrObjects first)) = _
    rw [slab.nrObjects]
    have fits := length_le_nrObjects there.distinct fun obj member => (there.own obj member).2
    change Except.ok (chainWalk _ (image.nrObjects (image.active cpu)) first) = _
    rw [chainWalk_of_nullTerminated chain fits]

end Consistent

end Reading

end SlubImage
end Slab
end CrashPython

import CrashPython.Library.Segments
import CrashPython.Types.LinkedList

namespace CrashPython
namespace Types

open Library

/-!
# Dynamic percpu ranges of `crash/types/percpu.py`

A percpu chunk describes its areas in an array of integers, in one of two
encodings.  Older kernels store the length of each area, negative for an area
in use.  Newer kernels store the offset of each area, with the lowest bit set
for an area in use, and close the array with the total size.  The kernel is not
asked for its version: an array without a negative entry is taken for the newer
encoding.

`_is_percpu_var_dynamic` fills a cache of ranges from all chunks on its first
use, and again as long as the cache stays empty.
-/

/-- The fields of a `struct pcpu_chunk` that are used here.  The array `map` is
readable as far as its list goes. -/
structure PcpuChunk where
  baseAddr : Int
  map : List Int
  mapUsed : Nat
  nrPages : Nat
deriving DecidableEq, Repr

/-- `DelayedAttributeError`, a failed read, or what the list iterator raises. -/
inductive PercpuError where
  | delayed
  | unreadable
  | list (error : ListError)
deriving DecidableEq, Repr

/-- `_dynamic_offset_cache`. -/
abbrev OffsetCache := List (Int × Int)

/-- `_add_to_offset_cache`. -/
def addToOffsetCache (base start stop : Int) (cache : OffsetCache) : OffsetCache :=
  cache ++ [(base + start, base + stop)]

/-- The variables of the two loops over the map. -/
structure AreaScan where
  off : Int
  start : Option Int
  cache : OffsetCache
deriving DecidableEq, Repr

/-- An area in use opens a range unless one is open. -/
def AreaScan.enter (scan : AreaScan) : AreaScan :=
  { scan with start := some (scan.start.getD scan.off) }

/-- A free area closes the open range. -/
def AreaScan.leave (base : Int) (scan : AreaScan) : AreaScan :=
  match scan.start with
  | none => scan
  | some start => { scan with start := none, cache := addToOffsetCache base start scan.off scan.cache }

/-- The loop for the encoding by lengths. -/
def scanLengths (base : Int) : List Int -> AreaScan -> AreaScan
  | [], scan => scan
  | value :: rest, scan =>
      let marked := if value < 0 then scan.enter else scan.leave base
      scanLengths base rest { marked with off := marked.off + (value.natAbs : Int) }

/-- The loop for the encoding by offsets. -/
def scanOffsets (base : Int) : List Int -> AreaScan -> AreaScan
  | [], scan => scan
  | value :: rest, scan =>
      scanOffsets base rest
        (if value % 2 = 1 then AreaScan.enter { scan with off := value - 1 }
          else AreaScan.leave base { scan with off := value })

/-- The end of either loop: an open range is closed at the given offset. -/
def AreaScan.flush (base stop : Int) (scan : AreaScan) : OffsetCache :=
  match scan.start with
  | none => scan.cache
  | some start => addToOffsetCache base start stop scan.cache

/-- `_setup_dynamic_offset_cache_area_map`.  A map that is too short for
`map_used` fails to read at its end. -/
def setupDynamicOffsetCacheAreaMap (pcpuBaseAddr : Option Int) (chunk : PcpuChunk) (cache : OffsetCache) :
    OffsetCache × Option PercpuError :=
  match pcpuBaseAddr with
  | none => (cache, some .delayed)
  | some baseAddr =>
      let base := chunk.baseAddr - baseAddr
      let values := chunk.map.take chunk.mapUsed
      let short := decide (chunk.map.length < chunk.mapUsed)
      if values.any fun value => decide (value < 0) then
        let scan := scanLengths base values ⟨0, none, cache⟩
        if short then (scan.cache, some .unreadable) else (scan.flush base scan.off, none)
      else if short then (cache, some .unreadable)
      else
        let scan := scanOffsets base values ⟨0, none, cache⟩
        match scan.start with
        | none => (scan.cache, none)
        | some start =>
            match chunk.map[chunk.mapUsed]? with
            | none => (scan.cache, some .unreadable)
            | some sentry => (addToOffsetCache base start (sentry - 1) scan.cache, none)

/-- `_setup_dynamic_offset_cache_bitmap`. -/
def setupDynamicOffsetCacheBitmap (pcpuBaseAddr : Option Int) (pageSize : Nat) (chunk : PcpuChunk)
    (cache : OffsetCache) : OffsetCache × Option PercpuError :=
  match pcpuBaseAddr with
  | none => (cache, some .delayed)
  | some baseAddr =>
      (addToOffsetCache (chunk.baseAddr - baseAddr) 0 ((chunk.nrPages * pageSize : Nat) : Int) cache, none)

/-- What is read from the target.  A symbol or type that has not been found yet
is `none`.  The chunks of a slot are what `list_for_each_entry` yields. -/
structure PcpuTarget where
  useAreaMap : Option Bool
  nrSlots : Option Nat
  slots : Option (Nat -> Run PcpuChunk PercpuError)
  pcpuBaseAddr : Option Int
  pageSize : Nat

def PcpuTarget.setupChunk (target : PcpuTarget) (useAreaMap : Bool) (chunk : PcpuChunk)
    (cache : OffsetCache) : OffsetCache × Option PercpuError :=
  if useAreaMap then setupDynamicOffsetCacheAreaMap target.pcpuBaseAddr chunk cache
  else setupDynamicOffsetCacheBitmap target.pcpuBaseAddr target.pageSize chunk cache

/-- The loop over the chunks of one slot. -/
def PcpuTarget.setupChunks (target : PcpuTarget) (useAreaMap : Bool) (ending : Ending PercpuError) :
    List PcpuChunk -> OffsetCache -> OffsetCache × Option PercpuError
  | [], cache =>
      match ending with
      | .completed => (cache, none)
      | .raised error => (cache, some error)
  | chunk :: rest, cache =>
      match target.setupChunk useAreaMap chunk cache with
      | (after, none) => target.setupChunks useAreaMap ending rest after
      | (after, some error) => (after, some error)

/-- The loop over the slots. -/
def PcpuTarget.setupSlots (target : PcpuTarget) (useAreaMap : Bool) :
    List Nat -> OffsetCache -> OffsetCache × Option PercpuError
  | [], cache => (cache, none)
  | slot :: rest, cache =>
      match target.slots with
      | none => (cache, some .delayed)
      | some slots =>
          match target.setupChunks useAreaMap (slots slot).ending (slots slot).events cache with
          | (after, none) => target.setupSlots useAreaMap rest after
          | (after, some error) => (after, some error)

/-- `_setup_dynamic_offset_cache`. -/
def PcpuTarget.setupDynamicOffsetCache (target : PcpuTarget) (cache : OffsetCache) :
    OffsetCache × Option PercpuError :=
  match target.useAreaMap, target.nrSlots with
  | some useAreaMap, some nrSlots => target.setupSlots useAreaMap (List.range nrSlots) cache
  | _, _ => (cache, some .delayed)

/-- `start <= var < end` for some range of the cache. -/
def inOffsetCache (var : Int) (cache : OffsetCache) : Bool :=
  cache.any fun range => decide (range.1 ≤ var) && decide (var < range.2)

/-- `_is_percpu_var_dynamic`. -/
def PcpuTarget.isPercpuVarDynamic (target : PcpuTarget) (var : Int) (cache : OffsetCache) :
    OffsetCache × Except PercpuError Bool :=
  match if cache.isEmpty then target.setupDynamicOffsetCache cache else (cache, none) with
  | (after, none) => (after, .ok (inOffsetCache var after))
  | (after, some .delayed) => (after, .ok false)
  | (after, some error) => (after, .error error)

/-- The cache after some queries, each with what could be read at its time. -/
def cacheAfter (queries : List (PcpuTarget × Int)) : OffsetCache :=
  queries.foldl (fun cache query => (query.1.isPercpuVarDynamic query.2 cache).1) []

/-! ## Layouts and their encodings -/

/-- The two encodings of a chunk's map. -/
inductive MapEncoding where
  | lengths
  | offsets
deriving DecidableEq, Repr

/-- The lengths of the areas, negative for an area in use. -/
def lengthMap (areas : List Segment) : List Int :=
  areas.map fun area => if area.marked then -(area.length : Int) else (area.length : Int)

/-- The offsets of the areas, marked in their lowest bit. -/
def offsetValues : Nat -> List Segment -> List Int
  | _, [] => []
  | off, area :: rest =>
      ((if area.marked then off ||| 1 else off : Nat) : Int) :: offsetValues (off + area.length) rest

/-- The end of the last area. -/
def totalSize : Nat -> List Segment -> Nat
  | off, [] => off
  | off, area :: rest => totalSize (off + area.length) rest

/-- The offsets, followed by the sentry. -/
def offsetMap (areas : List Segment) : List Int :=
  offsetValues 0 areas ++ [((totalSize 0 areas ||| 1 : Nat) : Int)]

def MapEncoding.encode (areas : List Segment) : MapEncoding -> List Int
  | .lengths => lengthMap areas
  | .offsets => offsetMap areas

/-- The areas of a chunk have positive even sizes. -/
def ValidLayout (areas : List Segment) : Prop :=
  forall area, area ∈ areas -> 0 < area.length ∧ area.length % 2 = 0

instance (areas : List Segment) : Decidable (ValidLayout areas) :=
  inferInstanceAs (Decidable (forall area, area ∈ areas -> 0 < area.length ∧ area.length % 2 = 0))

/-- The chunk stores the areas in an encoding.  What follows in the array does
not matter. -/
def PcpuChunk.Stores (chunk : PcpuChunk) (encoding : MapEncoding) (areas : List Segment) : Prop :=
  chunk.mapUsed = areas.length ∧
    Exists fun rest : List Int => chunk.map = encoding.encode areas ++ rest

theorem ValidLayout.head {area : Segment} {rest : List Segment} (valid : ValidLayout (area :: rest)) :
    0 < area.length ∧ area.length % 2 = 0 :=
  valid area List.mem_cons_self

theorem ValidLayout.tail {area : Segment} {rest : List Segment} (valid : ValidLayout (area :: rest)) :
    ValidLayout rest :=
  fun later member => valid later (List.mem_cons_of_mem _ member)

theorem offsetValues_length (off : Nat) (areas : List Segment) :
    (offsetValues off areas).length = areas.length := by
  induction areas generalizing off with
  | nil => rfl
  | cons area rest inductionHypothesis =>
      rw [offsetValues, List.length_cons, List.length_cons, inductionHypothesis]

theorem totalSize_even (areas : List Segment) (valid : ValidLayout areas) {off : Nat}
    (even : off % 2 = 0) : totalSize off areas % 2 = 0 := by
  induction areas generalizing off with
  | nil => exact even
  | cons area rest inductionHypothesis =>
      have here := valid.head.2
      exact inductionHypothesis valid.tail (by omega)

theorem or_one_of_even {off : Nat} (even : off % 2 = 0) : off ||| 1 = off + 1 := by
  have shape : 2 ^ 1 * (off / 2) = off := by omega
  have added := Nat.two_pow_add_eq_or_of_lt (b := 1) (i := 1) (by decide) (off / 2)
  rw [shape] at added
  exact added.symm

/-! ## The two loops -/

/-- The loop over lengths finds the runs of the areas in use. -/
theorem scanLengths_spec (base : Int) (areas : List Segment) (valid : ValidLayout areas) (off : Int)
    (start : Option Int) (cache : OffsetCache) :
    (scanLengths base (lengthMap areas) ⟨off, start, cache⟩).flush base
        (scanLengths base (lengthMap areas) ⟨off, start, cache⟩).off =
      cache ++ Segments.runs (start.map (base + ·)) (base + off) areas := by
  induction areas generalizing off start cache with
  | nil =>
      cases start with
      | none => exact (List.append_nil cache).symm
      | some start => rfl
  | cons area rest inductionHypothesis =>
      have positive := valid.head.1
      cases used : area.marked with
      | true =>
          have negative : -(area.length : Int) < 0 := by omega
          have length : ((-(area.length : Int)).natAbs : Int) = area.length := by omega
          simp only [lengthMap, List.map_cons, used, if_true, scanLengths, negative, AreaScan.enter, length]
          refine (inductionHypothesis valid.tail (off + area.length) (some (start.getD off)) cache).trans ?_
          cases start with
          | none => simp [Segments.runs, used, Int.add_assoc]
          | some start => simp [Segments.runs, used, Int.add_assoc]
      | false =>
          have nonnegative : ¬ (area.length : Int) < 0 := by omega
          simp only [lengthMap, List.map_cons, used, Bool.false_eq_true, if_false, scanLengths, nonnegative,
            Int.natAbs_natCast]
          cases start with
          | none =>
              refine (inductionHypothesis valid.tail (off + area.length) none cache).trans ?_
              simp [Segments.runs, used, Int.add_assoc]
          | some start =>
              refine (inductionHypothesis valid.tail (off + area.length) none
                (addToOffsetCache base start off cache)).trans ?_
              simp [Segments.runs, used, Int.add_assoc, addToOffsetCache]

/-- The loop over offsets finds the runs of the areas in use. -/
theorem scanOffsets_spec (base : Int) (areas : List Segment) (valid : ValidLayout areas) {off : Nat}
    (even : off % 2 = 0) (before : Int) (start : Option Int) (cache : OffsetCache) :
    (scanOffsets base (offsetValues off areas) ⟨before, start, cache⟩).flush base (totalSize off areas) =
      cache ++ Segments.runs (start.map (base + ·)) (base + off) areas := by
  induction areas generalizing off before start cache with
  | nil =>
      cases start with
      | none => exact (List.append_nil cache).symm
      | some start => rfl
  | cons area rest inductionHypothesis =>
      have evenNext : (off + area.length) % 2 = 0 := by
        have here := valid.head.2
        omega
      have along : base + ((off + area.length : Nat) : Int) = base + off + area.length := by omega
      cases used : area.marked with
      | true =>
          have marked : ((off ||| 1 : Nat) : Int) % 2 = 1 := by
            rw [or_one_of_even even]
            omega
          have unmarked : ((off ||| 1 : Nat) : Int) - 1 = off := by
            rw [or_one_of_even even]
            omega
          simp only [offsetValues, used, if_true, scanOffsets, marked, unmarked, AreaScan.enter, totalSize]
          refine (inductionHypothesis valid.tail evenNext off (some (start.getD off)) cache).trans ?_
          rw [along]
          cases start with
          | none => simp [Segments.runs, used]
          | some start => simp [Segments.runs, used]
      | false =>
          have free : ¬ (off : Int) % 2 = 1 := by omega
          simp only [offsetValues, used, Bool.false_eq_true, if_false, scanOffsets, free, totalSize]
          cases start with
          | none =>
              refine (inductionHypothesis valid.tail evenNext off none cache).trans ?_
              rw [along]
              simp [Segments.runs, used]
          | some start =>
              refine (inductionHypothesis valid.tail evenNext off none
                (addToOffsetCache base start off cache)).trans ?_
              rw [along]
              simp [Segments.runs, used, addToOffsetCache]

/-- Even values open no range in the loop over offsets. -/
theorem scanOffsets_free (base : Int) (values : List Int)
    (free : forall value, value ∈ values -> ¬ value % 2 = 1) (off : Int) (cache : OffsetCache) :
    (scanOffsets base values ⟨off, none, cache⟩).start = none ∧
      (scanOffsets base values ⟨off, none, cache⟩).cache = cache := by
  induction values generalizing off with
  | nil => exact ⟨rfl, rfl⟩
  | cons value rest inductionHypothesis =>
      rw [scanOffsets, if_neg (free value List.mem_cons_self)]
      exact inductionHypothesis (fun later member => free later (List.mem_cons_of_mem _ member)) value

/-! ## One chunk -/

theorem stored_values {chunk : PcpuChunk} {values rest : List Int} {areas : List Segment}
    (used : chunk.mapUsed = areas.length) (shape : chunk.map = values ++ rest)
    (length : values.length = areas.length) :
    chunk.map.take chunk.mapUsed = values ∧ ¬ chunk.map.length < chunk.mapUsed := by
  constructor
  · rw [used, ← length, shape, List.take_left]
  · rw [used, ← length, shape, List.length_append]
    omega

/-- A map of lengths without an area in use has no negative entry, and is read
as a map of offsets.  As the lengths are even, no range comes out. -/
theorem setupAreaMap_lengths {chunk : PcpuChunk} {areas : List Segment} (valid : ValidLayout areas)
    (stored : chunk.Stores .lengths areas) (baseAddr : Int) (cache : OffsetCache) :
    setupDynamicOffsetCacheAreaMap (some baseAddr) chunk cache =
      (cache ++ Segments.runs none (chunk.baseAddr - baseAddr) areas, none) := by
  rcases stored with ⟨used, rest, shape⟩
  rw [MapEncoding.encode] at shape
  have length : (lengthMap areas).length = areas.length := List.length_map _
  rcases stored_values used shape length with ⟨values, long⟩
  rw [setupDynamicOffsetCacheAreaMap]
  simp only [values, long, decide_false, Bool.false_eq_true, if_false]
  by_cases negative : (lengthMap areas).any (fun value => decide (value < 0)) = true
  · rw [if_pos negative, scanLengths_spec _ areas valid]
    simp only [Option.map_none, Int.add_zero]
  · have free : forall area, area ∈ areas -> area.marked = false := by
      intro area member
      cases marked : area.marked with
      | false => rfl
      | true =>
          have positive := (valid area member).1
          exfalso
          apply negative
          rw [List.any_eq_true]
          refine ⟨-(area.length : Int), List.mem_map.mpr ⟨area, member, by rw [marked, if_pos rfl]⟩, ?_⟩
          rw [decide_eq_true_eq]
          omega
    have even : forall value, value ∈ lengthMap areas -> ¬ value % 2 = 1 := by
      intro value member
      rcases List.mem_map.mp member with ⟨area, listed, same⟩
      rw [free area listed, if_neg Bool.false_ne_true] at same
      have parity := (valid area listed).2
      omega
    rcases scanOffsets_free (chunk.baseAddr - baseAddr) (lengthMap areas) even 0 cache with
      ⟨closed, unchanged⟩
    rw [if_neg negative]
    simp only [closed, unchanged]
    rw [(Segments.runs_eq_nil_iff _ areas).mpr free, List.append_nil]

theorem offsetValues_nonneg (off : Nat) (areas : List Segment) :
    (offsetValues off areas).any (fun value => decide (value < 0)) = false := by
  induction areas generalizing off with
  | nil => rfl
  | cons area rest inductionHypothesis =>
      rw [offsetValues, List.any_cons, inductionHypothesis, Bool.or_false, decide_eq_false_iff_not]
      omega

theorem setupAreaMap_offsets {chunk : PcpuChunk} {areas : List Segment} (valid : ValidLayout areas)
    (stored : chunk.Stores .offsets areas) (baseAddr : Int) (cache : OffsetCache) :
    setupDynamicOffsetCacheAreaMap (some baseAddr) chunk cache =
      (cache ++ Segments.runs none (chunk.baseAddr - baseAddr) areas, none) := by
  rcases stored with ⟨used, rest, shape⟩
  rw [MapEncoding.encode, offsetMap, List.append_assoc] at shape
  have length := offsetValues_length 0 areas
  rcases stored_values used shape length with ⟨values, long⟩
  have sentry : chunk.map[chunk.mapUsed]? = some ((totalSize 0 areas ||| 1 : Nat) : Int) := by
    rw [used, ← length, shape, List.getElem?_append_right (Nat.le_refl _), Nat.sub_self]
    rfl
  have size : ((totalSize 0 areas ||| 1 : Nat) : Int) - 1 = totalSize 0 areas := by
    rw [or_one_of_even (totalSize_even areas valid (Nat.zero_mod 2))]
    omega
  have found := scanOffsets_spec (chunk.baseAddr - baseAddr) areas valid (Nat.zero_mod 2) 0 none cache
  rw [setupDynamicOffsetCacheAreaMap]
  simp only [values, long, decide_false, Bool.false_eq_true, if_false, offsetValues_nonneg, sentry]
  rw [AreaScan.flush] at found
  cases open_ : (scanOffsets (chunk.baseAddr - baseAddr) (offsetValues 0 areas) ⟨0, none, cache⟩).start with
  | none =>
      rw [open_] at found
      simp only [Option.map_none, Int.natCast_zero, Int.add_zero] at found
      simp only [found]
  | some start =>
      rw [open_] at found
      simp only [Option.map_none, Int.natCast_zero, Int.add_zero] at found
      simp only [size, found]

/-- Both encodings of a layout give the same ranges. -/
theorem setupAreaMap_spec {chunk : PcpuChunk} {encoding : MapEncoding} {areas : List Segment}
    (valid : ValidLayout areas) (stored : chunk.Stores encoding areas) (baseAddr : Int)
    (cache : OffsetCache) :
    setupDynamicOffsetCacheAreaMap (some baseAddr) chunk cache =
      (cache ++ Segments.runs none (chunk.baseAddr - baseAddr) areas, none) := by
  cases encoding with
  | lengths => exact setupAreaMap_lengths valid stored baseAddr cache
  | offsets => exact setupAreaMap_offsets valid stored baseAddr cache

/-! ## All chunks -/

/-- The target can be read throughout, and each of its chunks stores the layout
that is given for it, in an encoding of its own. -/
structure PcpuTarget.Describes (target : PcpuTarget) (baseAddr : Int) (nrSlots : Nat)
    (slots : Nat -> Run PcpuChunk PercpuError) (layout : PcpuChunk -> List Segment) : Prop where
  areaMap : target.useAreaMap = some true
  slotCount : target.nrSlots = some nrSlots
  slotLists : target.slots = some slots
  base : target.pcpuBaseAddr = some baseAddr
  completed : forall slot, slot < nrSlots -> (slots slot).ending = .completed
  valid : forall slot, slot < nrSlots -> forall chunk, chunk ∈ (slots slot).events ->
    ValidLayout (layout chunk)
  stored : forall slot, slot < nrSlots -> forall chunk, chunk ∈ (slots slot).events ->
    Exists fun encoding : MapEncoding => chunk.Stores encoding (layout chunk)

/-- Some symbols or types of the target have not been found yet. -/
structure PcpuTarget.Precedes (early target : PcpuTarget) : Prop where
  areaMap : early.useAreaMap = none ∨ early.useAreaMap = target.useAreaMap
  slotCount : early.nrSlots = none ∨ early.nrSlots = target.nrSlots
  slotLists : early.slots = none ∨ early.slots = target.slots
  base : early.pcpuBaseAddr = none ∨ early.pcpuBaseAddr = target.pcpuBaseAddr

/-- The ranges of some chunks. -/
def chunkRanges (baseAddr : Int) (layout : PcpuChunk -> List Segment) (chunks : List PcpuChunk) :
    OffsetCache :=
  chunks.flatMap fun chunk => Segments.runs none (chunk.baseAddr - baseAddr) (layout chunk)

/-- The ranges of the chunks in some slots. -/
def slotRanges (baseAddr : Int) (layout : PcpuChunk -> List Segment)
    (slots : Nat -> Run PcpuChunk PercpuError) (numbers : List Nat) : OffsetCache :=
  numbers.flatMap fun slot => chunkRanges baseAddr layout (slots slot).events

/-- The two states of the cache: not filled yet, or filled with all ranges. -/
def EmptyOrFull (ranges cache : OffsetCache) : Prop :=
  cache = [] ∨ cache = ranges

section Described

variable {target early : PcpuTarget} {baseAddr : Int} {nrSlots : Nat}
variable {slots : Nat -> Run PcpuChunk PercpuError} {layout : PcpuChunk -> List Segment}

theorem setupChunks_spec (base : target.pcpuBaseAddr = some baseAddr)
    (layout : PcpuChunk -> List Segment) (chunks : List PcpuChunk)
    (valid : forall chunk, chunk ∈ chunks -> ValidLayout (layout chunk))
    (stored : forall chunk, chunk ∈ chunks ->
      Exists fun encoding : MapEncoding => chunk.Stores encoding (layout chunk)) (cache : OffsetCache) :
    target.setupChunks true .completed chunks cache =
      (cache ++ chunkRanges baseAddr layout chunks, none) := by
  induction chunks generalizing cache with
  | nil => rw [PcpuTarget.setupChunks, chunkRanges, List.flatMap_nil, List.append_nil]
  | cons chunk rest inductionHypothesis =>
      rcases stored chunk List.mem_cons_self with ⟨encoding, here⟩
      rw [PcpuTarget.setupChunks, PcpuTarget.setupChunk, if_pos rfl, base,
        setupAreaMap_spec (valid chunk List.mem_cons_self) here]
      refine (inductionHypothesis (fun later member => valid later (List.mem_cons_of_mem _ member))
        (fun later member => stored later (List.mem_cons_of_mem _ member)) _).trans ?_
      rw [chunkRanges, chunkRanges, List.flatMap_cons, List.append_assoc]

theorem setupSlots_spec (described : target.Describes baseAddr nrSlots slots layout) (numbers : List Nat)
    (known : forall slot, slot ∈ numbers -> slot < nrSlots) (cache : OffsetCache) :
    target.setupSlots true numbers cache =
      (cache ++ slotRanges baseAddr layout slots numbers, none) := by
  induction numbers generalizing cache with
  | nil => rw [PcpuTarget.setupSlots, slotRanges, List.flatMap_nil, List.append_nil]
  | cons slot rest inductionHypothesis =>
      have here := known slot List.mem_cons_self
      rw [PcpuTarget.setupSlots, described.slotLists]
      simp only [described.completed slot here,
        setupChunks_spec described.base layout (slots slot).events (described.valid slot here)
          (described.stored slot here)]
      refine (inductionHypothesis (fun later member => known later (List.mem_cons_of_mem _ member)) _).trans ?_
      rw [slotRanges, slotRanges, List.flatMap_cons, List.append_assoc]

/-- Without `pcpu_base_addr` no chunk contributes a range. -/
theorem setupChunks_delayed (missing : target.pcpuBaseAddr = none)
    (useAreaMap : Bool) (ending : Ending PercpuError) (chunks : List PcpuChunk) (cache : OffsetCache) :
    (target.setupChunks useAreaMap ending chunks cache).1 = cache := by
  cases chunks with
  | nil =>
      cases ending with
      | completed => rfl
      | raised error => rfl
  | cons chunk rest =>
      have fails : target.setupChunk useAreaMap chunk cache = (cache, some .delayed) := by
        cases useAreaMap with
        | true => rw [PcpuTarget.setupChunk, if_pos rfl, missing, setupDynamicOffsetCacheAreaMap]
        | false =>
            rw [PcpuTarget.setupChunk, if_neg Bool.false_ne_true, missing, setupDynamicOffsetCacheBitmap]
      rw [PcpuTarget.setupChunks, fails]

theorem setupSlots_delayed (missing : target.pcpuBaseAddr = none)
    (useAreaMap : Bool) (numbers : List Nat) (cache : OffsetCache) :
    (target.setupSlots useAreaMap numbers cache).1 = cache := by
  induction numbers generalizing cache with
  | nil => rfl
  | cons slot rest inductionHypothesis =>
      rw [PcpuTarget.setupSlots]
      cases target.slots with
      | none => rfl
      | some slots =>
          have unchanged := setupChunks_delayed missing useAreaMap (slots slot).ending (slots slot).events cache
          cases result : target.setupChunks useAreaMap (slots slot).ending (slots slot).events cache with
          | mk after outcome =>
              rw [result] at unchanged
              simp only [result]
              cases outcome with
              | none => exact (inductionHypothesis after).trans unchanged
              | some error => exact unchanged

theorem setupSlots_without_slots (missing : target.slots = none)
    (useAreaMap : Bool) (numbers : List Nat) (cache : OffsetCache) :
    (target.setupSlots useAreaMap numbers cache).1 = cache := by
  cases numbers with
  | nil => rfl
  | cons slot rest => rw [PcpuTarget.setupSlots, missing]

/-- The first query, made with an earlier view of the target, leaves the cache
empty or fills it with all ranges. -/
theorem setupDynamicOffsetCache_early (described : target.Describes baseAddr nrSlots slots layout)
    (precedes : early.Precedes target) :
    EmptyOrFull (slotRanges baseAddr layout slots (List.range nrSlots))
      (early.setupDynamicOffsetCache []).1 := by
  rcases precedes with ⟨areaMap, slotCount, slotLists, base⟩
  rw [PcpuTarget.setupDynamicOffsetCache]
  rcases areaMap with missing | areaMap
  · rw [missing]
    exact Or.inl rfl
  rcases slotCount with missing | slotCount
  · rw [areaMap, described.areaMap, missing]
    exact Or.inl rfl
  rw [areaMap, described.areaMap, slotCount, described.slotCount]
  rcases slotLists with missing | slotLists
  · exact Or.inl (setupSlots_without_slots missing true (List.range nrSlots) [])
  rcases base with missing | base
  · exact Or.inl (setupSlots_delayed missing true (List.range nrSlots) [])
  have same : early.Describes baseAddr nrSlots slots layout :=
    ⟨areaMap.trans described.areaMap, slotCount.trans described.slotCount,
      slotLists.trans described.slotLists, base.trans described.base, described.completed,
      described.valid, described.stored⟩
  refine Or.inr ?_
  simp only [setupSlots_spec same (List.range nrSlots) (fun slot => List.mem_range.mp), List.nil_append]

/-- A query keeps the cache in one of its two states. -/
theorem isPercpuVarDynamic_cache (described : target.Describes baseAddr nrSlots slots layout)
    (precedes : early.Precedes target) (var : Int) {cache : OffsetCache}
    (before : EmptyOrFull (slotRanges baseAddr layout slots (List.range nrSlots)) cache) :
    EmptyOrFull (slotRanges baseAddr layout slots (List.range nrSlots))
      (early.isPercpuVarDynamic var cache).1 := by
  have kept : (early.isPercpuVarDynamic var cache).1 =
      (if cache.isEmpty then early.setupDynamicOffsetCache cache else (cache, none)).1 := by
    rw [PcpuTarget.isPercpuVarDynamic]
    split
    · next same => rw [same]
    · next same => rw [same]
    · next same => rw [same]
  rw [kept]
  cases cache with
  | nil => exact setupDynamicOffsetCache_early described precedes
  | cons range rest => exact before

theorem queries_cache (described : target.Describes baseAddr nrSlots slots layout)
    (queries : List (PcpuTarget × Int))
    (precede : forall query, query ∈ queries -> query.1.Precedes target) {cache : OffsetCache}
    (before : EmptyOrFull (slotRanges baseAddr layout slots (List.range nrSlots)) cache) :
    EmptyOrFull (slotRanges baseAddr layout slots (List.range nrSlots))
      (queries.foldl (fun cache query => (query.1.isPercpuVarDynamic query.2 cache).1) cache) := by
  induction queries generalizing cache with
  | nil => exact before
  | cons query rest inductionHypothesis =>
      exact inductionHypothesis (fun later member => precede later (List.mem_cons_of_mem _ member))
        (isPercpuVarDynamic_cache described (precede query List.mem_cons_self) query.2 before)

/-- With the whole target readable, either state of the cache gives the same
answer. -/
theorem isPercpuVarDynamic_answer (described : target.Describes baseAddr nrSlots slots layout)
    (var : Int) {cache : OffsetCache}
    (before : EmptyOrFull (slotRanges baseAddr layout slots (List.range nrSlots)) cache) :
    (target.isPercpuVarDynamic var cache).2 =
      .ok (inOffsetCache var (slotRanges baseAddr layout slots (List.range nrSlots))) := by
  have filled : (if cache.isEmpty then target.setupDynamicOffsetCache cache else (cache, none)) =
      (slotRanges baseAddr layout slots (List.range nrSlots), none) := by
    cases cache with
    | nil =>
        rw [List.isEmpty_nil, if_pos rfl, PcpuTarget.setupDynamicOffsetCache, described.areaMap,
          described.slotCount]
        exact setupSlots_spec described (List.range nrSlots) (fun slot => List.mem_range.mp) []
    | cons range rest =>
        rcases before with impossible | same
        · cases impossible
        · rw [List.isEmpty_cons, if_neg Bool.false_ne_true, same]
  rw [PcpuTarget.isPercpuVarDynamic, filled]

end Described

/-! ## What the cache covers -/

theorem inOffsetCache_eq_true (var : Int) (cache : OffsetCache) :
    inOffsetCache var cache = true <-> Covers cache var := by
  simp only [inOffsetCache, List.any_eq_true, Bool.and_eq_true, decide_eq_true_eq, Covers]

theorem covers_slotRanges (baseAddr : Int) (layout : PcpuChunk -> List Segment)
    (slots : Nat -> Run PcpuChunk PercpuError) (numbers : List Nat) (var : Int) :
    Covers (slotRanges baseAddr layout slots numbers) var <->
      Exists fun slot : Nat => slot ∈ numbers ∧ Exists fun chunk : PcpuChunk =>
        chunk ∈ (slots slot).events ∧
          Segments.MarkedAt (chunk.baseAddr - baseAddr) (layout chunk) var := by
  constructor
  · rintro ⟨range, member, inside⟩
    rcases List.mem_flatMap.mp member with ⟨slot, listed, member⟩
    rcases List.mem_flatMap.mp member with ⟨chunk, present, member⟩
    exact ⟨slot, listed, chunk, present, (Segments.covers_runs _ _ _).1.mp ⟨range, member, inside⟩⟩
  · rintro ⟨slot, listed, chunk, present, marked⟩
    rcases (Segments.covers_runs _ _ _).1.mpr marked with ⟨range, member, inside⟩
    exact ⟨range, List.mem_flatMap.mpr ⟨slot, listed, List.mem_flatMap.mpr ⟨chunk, present, member⟩⟩, inside⟩

/-- Both encodings of a layout add the same ranges.  They are separated and
cover exactly the areas in use.  After any earlier queries, a variable is found
dynamic just when it lies in an area in use of some chunk. -/
theorem offsetCache_usedAreas {areas : List Segment} (valid : ValidLayout areas)
    {target : PcpuTarget} {baseAddr : Int} {nrSlots : Nat} {slots : Nat -> Run PcpuChunk PercpuError}
    {layout : PcpuChunk -> List Segment} (described : target.Describes baseAddr nrSlots slots layout)
    (queries : List (PcpuTarget × Int))
    (precede : forall query, query ∈ queries -> query.1.Precedes target) :
    (forall chunkAddr pcpuBaseAddr : Int, Exists fun ranges : OffsetCache =>
      (forall (chunk : PcpuChunk) (encoding : MapEncoding) (cache : OffsetCache),
        chunk.baseAddr = chunkAddr -> chunk.Stores encoding areas ->
          setupDynamicOffsetCacheAreaMap (some pcpuBaseAddr) chunk cache = (cache ++ ranges, none)) ∧
      Separated ranges ∧
      forall var, Covers ranges var <-> Segments.MarkedAt (chunkAddr - pcpuBaseAddr) areas var) ∧
    forall var, Exists fun dynamic : Bool =>
      (target.isPercpuVarDynamic var (cacheAfter queries)).2 = .ok dynamic ∧
      (dynamic = true <-> Exists fun slot : Nat => slot < nrSlots ∧ Exists fun chunk : PcpuChunk =>
        chunk ∈ (slots slot).events ∧
          Segments.MarkedAt (chunk.baseAddr - baseAddr) (layout chunk) var) := by
  constructor
  · intro chunkAddr pcpuBaseAddr
    refine ⟨Segments.runs none (chunkAddr - pcpuBaseAddr) areas, ?_, ?_, ?_⟩
    · intro chunk encoding cache address stored
      rw [setupAreaMap_spec valid stored, address]
    · exact (Segments.separated_runs areas (fun area member => (valid area member).1) _).1
    · intro var
      exact (Segments.covers_runs areas _ var).1
  · intro var
    refine ⟨_, isPercpuVarDynamic_answer described var
      (queries_cache described queries precede (Or.inl rfl)), ?_⟩
    rw [inOffsetCache_eq_true, covers_slotRanges]
    simp only [List.mem_range]

/-- A used area, a free one and another used one, stored by lengths in one chunk
and by offsets in the other. -/
def twoChunkAreas : List Segment := [⟨4, true⟩, ⟨8, false⟩, ⟨2, true⟩]

def lengthChunk : PcpuChunk := ⟨4096, [-4, 8, -2], 3, 1⟩

def offsetChunk : PcpuChunk := ⟨8192, [1, 4, 13, 15], 3, 1⟩

def twoChunkSlots (slot : Nat) : Run PcpuChunk PercpuError :=
  if slot = 0 then ⟨[lengthChunk], .completed⟩ else ⟨[offsetChunk], .completed⟩

def twoChunkTarget : PcpuTarget := ⟨some true, some 2, some twoChunkSlots, some 4096, 4096⟩

/-- The same target before `pcpu_base_addr` is found. -/
def twoChunkEarly : PcpuTarget := { twoChunkTarget with pcpuBaseAddr := none }

theorem twoChunkTarget_describes :
    twoChunkTarget.Describes 4096 2 twoChunkSlots fun _ => twoChunkAreas := by
  have valid : ValidLayout twoChunkAreas := by decide
  refine ⟨rfl, rfl, rfl, rfl, ?_, fun _ _ _ _ => valid, ?_⟩
  · intro slot _
    rw [twoChunkSlots]
    split
    · rfl
    · rfl
  · intro slot _ chunk member
    rw [twoChunkSlots] at member
    split at member
    · rw [List.mem_singleton.mp member]
      exact ⟨.lengths, rfl, [], rfl⟩
    · rw [List.mem_singleton.mp member]
      exact ⟨.offsets, rfl, [], rfl⟩

theorem offsetCache_usedAreas_twoChunks :
    (Exists fun ranges : OffsetCache =>
      setupDynamicOffsetCacheAreaMap (some 4096) lengthChunk [] = (ranges, none) ∧
      setupDynamicOffsetCacheAreaMap (some 4096) { offsetChunk with baseAddr := 4096 } [] = (ranges, none) ∧
      Separated ranges) ∧
    (twoChunkTarget.isPercpuVarDynamic 4109 (cacheAfter [(twoChunkEarly, 2), (twoChunkTarget, 5)])).2 =
      .ok true := by
  have precede : forall query : PcpuTarget × Int,
      query ∈ [(twoChunkEarly, (2 : Int)), (twoChunkTarget, 5)] -> query.1.Precedes twoChunkTarget := by
    intro query member
    rcases List.mem_cons.mp member with first | later
    · rw [first]
      exact ⟨Or.inr rfl, Or.inr rfl, Or.inr rfl, Or.inl rfl⟩
    · rw [List.mem_singleton.mp later]
      exact ⟨Or.inr rfl, Or.inr rfl, Or.inr rfl, Or.inr rfl⟩
  have valid : ValidLayout twoChunkAreas := by decide
  rcases offsetCache_usedAreas valid twoChunkTarget_describes _ precede with ⟨same, answers⟩
  constructor
  · rcases same 4096 4096 with ⟨ranges, added, separated, _⟩
    exact ⟨ranges, added lengthChunk .lengths [] rfl ⟨rfl, [], rfl⟩,
      added { offsetChunk with baseAddr := 4096 } .offsets [] rfl ⟨rfl, [], rfl⟩, separated⟩
  · rcases answers 4109 with ⟨dynamic, answered, exact_⟩
    rw [answered, exact_.mpr ⟨1, by decide, offsetChunk, List.mem_singleton.mpr rfl, ?_⟩]
    refine Or.inr (Or.inr (Or.inl ⟨rfl, ?_, ?_⟩))
    · decide
    · decide

end Types
end CrashPython

import CrashPython.Types.ListReverse
import CrashPython.Types.ListRun
import CrashPython.Types.Percpu
import Mathlib.Data.List.DropRight

namespace CrashPython
namespace Types

open Library

/-!
# Queries of `is_percpu_var` over one memory

The first query that gets as far as the dynamic ranges builds a cache of them, from
the chunks on the lists of all slots.  Building it can be cut short: by a slot's list
that is corrupt or cannot be read to its end, by a chunk that cannot be read, or by a
map that ends too early.  The exception leaves the query, but what was added to the
cache stays there, and only an empty cache is built again.

The chunks in memory hold valid layouts here.  The lists through them are arbitrary.
-/

/-! ## Queries -/

/-- The attributes of `PerCPUState` that a query uses. -/
structure PerCPURanges where
  staticRanges : List (Int × Int)
  moduleRanges : List (Int × Int)
  dynamicOffsetCache : OffsetCache
deriving DecidableEq, Repr

/-- `start <= addr < start + size` for some item of a dictionary of ranges. -/
def inRanges (addr : Int) (ranges : List (Int × Int)) : Bool :=
  ranges.any fun range => decide (range.1 ≤ addr) && decide (addr < range.1 + range.2)

namespace PerCPURanges

/-- `is_static_percpu_var`. -/
def isStaticPercpuVar (cls : PerCPURanges) (addr : Int) : Bool :=
  inRanges addr cls.staticRanges

/-- `is_module_percpu_var`. -/
def isModulePercpuVar (cls : PerCPURanges) (addr : Int) : Bool :=
  inRanges addr cls.moduleRanges

end PerCPURanges

/-- `is_percpu_var`, for a symbol with its address. -/
def PcpuTarget.isPercpuVar (target : PcpuTarget) (var : Int) (cls : PerCPURanges) :
    PerCPURanges × Except PercpuError Bool :=
  if cls.isStaticPercpuVar var then (cls, .ok true)
  else if cls.isModulePercpuVar var then (cls, .ok true)
  else
    let dynamic := target.isPercpuVarDynamic var cls.dynamicOffsetCache
    ({ cls with dynamicOffsetCache := dynamic.1 }, dynamic.2)

/-- The attributes after some queries, whether they return or raise an exception. -/
def PcpuTarget.afterQueries (target : PcpuTarget) (cls : PerCPURanges) (queries : List Int) :
    PerCPURanges :=
  queries.foldl (fun cls var => (target.isPercpuVar var cls).1) cls

/-! ## Chunks in memory -/

/-- A chunk with a valid layout.  Its array `map` can be read as far as
`mapReadable` entries, and the chunk itself perhaps not at all. -/
structure ChunkImage where
  baseAddr : Int
  nrPages : Nat
  encoding : MapEncoding
  areas : List Segment
  valid : ValidLayout areas
  beyond : List Int
  mapReadable : Nat
  readable : Bool

namespace ChunkImage

variable (image : ChunkImage)

/-- The chunk as it is read. -/
def chunk : PcpuChunk where
  baseAddr := image.baseAddr
  map := (image.encoding.encode image.areas ++ image.beyond).take image.mapReadable
  mapUsed := image.areas.length
  nrPages := image.nrPages

/-- The areas up to the last free one. -/
def settled (areas : List Segment) : List Segment :=
  areas.rdropWhile fun area => area.marked

/-- The areas whose ranges are found.  With lengths, a range is found when the free
area after it is read.  With offsets, nothing is found before the whole map was
looked at, and the last range needs the sentry after the map. -/
def areasFound : List Segment :=
  match image.encoding with
  | .lengths =>
      if image.mapReadable < image.areas.length then settled (image.areas.take image.mapReadable)
      else image.areas
  | .offsets =>
      if image.mapReadable < image.areas.length then []
      else if image.mapReadable = image.areas.length then settled image.areas
      else image.areas

/-- Whether the map can be read as far as it is needed. -/
def MapComplete : Prop :=
  image.areas.length ≤ image.mapReadable ∧
    (image.encoding = .offsets -> image.mapReadable = image.areas.length ->
      settled image.areas = image.areas)

instance : Decidable image.MapComplete :=
  inferInstanceAs (Decidable (_ ∧ _))

end ChunkImage

/-! ## Maps that end too early -/

theorem scanLengths_concat (base value : Int) (values : List Int) (scan : AreaScan) :
    scanLengths base (values ++ [value]) scan =
      scanLengths base [value] (scanLengths base values scan) := by
  induction values generalizing scan with
  | nil => rfl
  | cons first rest inductionHypothesis => exact inductionHypothesis _

theorem scanOffsets_concat (base value : Int) (values : List Int) (scan : AreaScan) :
    scanOffsets base (values ++ [value]) scan =
      scanOffsets base [value] (scanOffsets base values scan) := by
  induction values generalizing scan with
  | nil => rfl
  | cons first rest inductionHypothesis => exact inductionHypothesis _

theorem leave_closes (base : Int) (scan : AreaScan) : (scan.leave base).start = none := by
  simp only [AreaScan.leave]
  cases start : scan.start with
  | none => exact start
  | some opened => rfl

theorem ValidLayout.init {areas : List Segment} {last : Segment} (valid : ValidLayout (areas ++ [last])) :
    ValidLayout areas :=
  fun area member => valid area (List.mem_append_left _ member)

/-- The ranges that the loop over lengths has added before its end. -/
theorem scanLengths_settled (base : Int) (areas : List Segment) (valid : ValidLayout areas)
    (cache : OffsetCache) :
    (scanLengths base (lengthMap areas) ⟨0, none, cache⟩).cache =
      cache ++ Segments.runs none base (ChunkImage.settled areas) := by
  simp only [ChunkImage.settled]
  induction areas using List.reverseRecOn with
  | nil => exact (List.append_nil cache).symm
  | append_singleton areas last inductionHypothesis =>
      have positive := (valid last (List.mem_append_right _ (List.mem_singleton_self last))).1
      have split : lengthMap (areas ++ [last]) =
          lengthMap areas ++ [if last.marked then -(last.length : Int) else (last.length : Int)] :=
        List.map_append
      cases marked : last.marked with
      | true =>
          have negative : -(last.length : Int) < 0 := by omega
          rw [List.rdropWhile_concat_pos _ _ _ marked, ← inductionHypothesis valid.init, split, marked,
            if_pos rfl, scanLengths_concat, scanLengths, if_pos negative]
          rfl
      | false =>
          have free : ¬ last.marked = true := by
            rw [marked]
            exact Bool.false_ne_true
          have nonnegative : ¬ (last.length : Int) < 0 := by omega
          have flushed := scanLengths_spec base (areas ++ [last]) valid 0 none cache
          have closed : (scanLengths base (lengthMap (areas ++ [last])) ⟨0, none, cache⟩).start = none := by
            rw [split, marked, if_neg Bool.false_ne_true, scanLengths_concat, scanLengths,
              if_neg nonnegative]
            exact leave_closes base _
          simp only [AreaScan.flush] at flushed
          rw [closed] at flushed
          rw [List.rdropWhile_concat_neg _ _ _ free]
          simpa using flushed

theorem offsetValues_concat (off : Nat) (areas : List Segment) (last : Segment) :
    offsetValues off (areas ++ [last]) = offsetValues off areas ++
      [((if last.marked then totalSize off areas ||| 1 else totalSize off areas : Nat) : Int)] := by
  induction areas generalizing off with
  | nil => rfl
  | cons area rest inductionHypothesis =>
      rw [List.cons_append, offsetValues, inductionHypothesis]
      rfl

/-- The ranges that the loop over offsets has added before the sentry is read, and
whether it needs the sentry. -/
theorem scanOffsets_settled (base : Int) (areas : List Segment) (valid : ValidLayout areas)
    (cache : OffsetCache) :
    (scanOffsets base (offsetValues 0 areas) ⟨0, none, cache⟩).cache =
        cache ++ Segments.runs none base (ChunkImage.settled areas) ∧
      ((scanOffsets base (offsetValues 0 areas) ⟨0, none, cache⟩).start = none <->
        ChunkImage.settled areas = areas) := by
  simp only [ChunkImage.settled]
  induction areas using List.reverseRecOn with
  | nil => exact ⟨(List.append_nil cache).symm, iff_of_true rfl rfl⟩
  | append_singleton areas last inductionHypothesis =>
      have even := totalSize_even areas valid.init (Nat.zero_mod 2)
      cases marked : last.marked with
      | true =>
          have odd : ((totalSize 0 areas ||| 1 : Nat) : Int) % 2 = 1 := by
            rw [or_one_of_even even]
            omega
          have shorter : (areas.rdropWhile fun area => area.marked) ≠ areas ++ [last] := by
            intro same
            have length := (List.rdropWhile_prefix (fun area : Segment => area.marked) areas).length_le
            rw [same, List.length_append, List.length_singleton] at length
            omega
          rw [List.rdropWhile_concat_pos _ _ _ marked, ← (inductionHypothesis valid.init).1,
            offsetValues_concat, marked, if_pos rfl, scanOffsets_concat, scanOffsets, if_pos odd]
          exact ⟨rfl, iff_of_false (Option.some_ne_none _) shorter⟩
      | false =>
          have free : ¬ last.marked = true := by
            rw [marked]
            exact Bool.false_ne_true
          have unmarked : ¬ ((totalSize 0 areas : Nat) : Int) % 2 = 1 := by omega
          have flushed := scanOffsets_spec base (areas ++ [last]) valid (Nat.zero_mod 2) 0 none cache
          have closed :
              (scanOffsets base (offsetValues 0 (areas ++ [last])) ⟨0, none, cache⟩).start = none := by
            rw [offsetValues_concat, marked, if_neg Bool.false_ne_true, scanOffsets_concat, scanOffsets,
              if_neg unmarked]
            exact leave_closes base _
          simp only [AreaScan.flush] at flushed
          rw [closed] at flushed
          rw [List.rdropWhile_concat_neg _ _ _ free]
          exact ⟨by simpa using flushed, iff_of_true closed rfl⟩

namespace ChunkImage

variable {image : ChunkImage}

theorem settled_start (areas : List Segment) : settled areas <+: areas :=
  List.rdropWhile_prefix _ _

theorem valid_take (count : Nat) : ValidLayout (image.areas.take count) :=
  fun area member => image.valid area (List.mem_of_mem_take member)

/-- The part of a map that is read if it ends before its last area. -/
theorem read_short {values rest : List Int} (length : values.length = image.areas.length)
    (shape : image.encoding.encode image.areas = values ++ rest)
    (short : image.mapReadable < image.areas.length) :
    image.chunk.map = values.take image.mapReadable ∧
      image.chunk.map.take image.chunk.mapUsed = values.take image.mapReadable ∧
      image.chunk.map.length < image.chunk.mapUsed := by
  have map : image.chunk.map = values.take image.mapReadable := by
    change (image.encoding.encode image.areas ++ image.beyond).take image.mapReadable = _
    rw [shape, List.append_assoc, List.take_append_of_le_length (by omega)]
  have taken : (values.take image.mapReadable).length = image.mapReadable := by
    rw [List.length_take]
    omega
  refine ⟨map, ?_, ?_⟩
  · rw [map]
    exact List.take_of_length_le (by rw [taken]; exact short.le)
  · rw [map, taken]
    exact short

theorem setupAreaMap_lengths_short (lengths : image.encoding = .lengths)
    (short : image.mapReadable < image.areas.length) (baseAddr : Int) (cache : OffsetCache) :
    setupDynamicOffsetCacheAreaMap (some baseAddr) image.chunk cache =
      (cache ++ Segments.runs none (image.baseAddr - baseAddr)
        (settled (image.areas.take image.mapReadable)), some .unreadable) := by
  have length : (lengthMap image.areas).length = image.areas.length := List.length_map _
  have shape : image.encoding.encode image.areas = lengthMap image.areas ++ [] := by
    rw [lengths, List.append_nil]
    rfl
  rcases read_short length shape short with ⟨_, values, short⟩
  have taken : (lengthMap image.areas).take image.mapReadable =
      lengthMap (image.areas.take image.mapReadable) := List.map_take.symm
  rw [taken] at values
  rw [setupDynamicOffsetCacheAreaMap]
  simp only [values, short, decide_true, if_true]
  split
  · rw [scanLengths_settled _ _ (valid_take _)]
    rfl
  · next positive =>
      have free : forall area, area ∈ settled (image.areas.take image.mapReadable) ->
          area.marked = false := by
        intro area member
        cases marked : area.marked with
        | false => rfl
        | true =>
            have inside := (settled_start _).subset member
            have nonzero := (valid_take _ area inside).1
            exfalso
            apply positive
            rw [List.any_eq_true]
            refine ⟨-(area.length : Int), List.mem_map.mpr ⟨area, inside, by rw [marked, if_pos rfl]⟩, ?_⟩
            rw [decide_eq_true_eq]
            omega
      rw [(Segments.runs_eq_nil_iff _ _).mpr free, List.append_nil]

theorem any_take_negative {values : List Int} (count : Nat)
    (nonnegative : values.any (fun value => decide (value < 0)) = false) :
    (values.take count).any (fun value => decide (value < 0)) = false := by
  rw [List.any_eq_false] at nonnegative ⊢
  exact fun value member => nonnegative value (List.mem_of_mem_take member)

theorem setupAreaMap_offsets_short (offsets : image.encoding = .offsets)
    (short : image.mapReadable < image.areas.length) (baseAddr : Int) (cache : OffsetCache) :
    setupDynamicOffsetCacheAreaMap (some baseAddr) image.chunk cache = (cache, some .unreadable) := by
  have shape : image.encoding.encode image.areas =
      offsetValues 0 image.areas ++ [((totalSize 0 image.areas ||| 1 : Nat) : Int)] := by
    rw [offsets]
    rfl
  rcases read_short (offsetValues_length 0 image.areas) shape short with ⟨_, values, short⟩
  have positive := any_take_negative image.mapReadable (offsetValues_nonneg 0 image.areas)
  rw [setupDynamicOffsetCacheAreaMap]
  simp only [values, short, positive, decide_true, if_true, Bool.false_eq_true, if_false]

/-- A map of offsets that ends before its sentry. -/
theorem setupAreaMap_offsets_unclosed (offsets : image.encoding = .offsets)
    (last : image.mapReadable = image.areas.length) (baseAddr : Int) (cache : OffsetCache) :
    setupDynamicOffsetCacheAreaMap (some baseAddr) image.chunk cache =
      (cache ++ Segments.runs none (image.baseAddr - baseAddr) (settled image.areas),
        if settled image.areas = image.areas then none else some .unreadable) := by
  have length := offsetValues_length 0 image.areas
  have map : image.chunk.map = offsetValues 0 image.areas := by
    change (image.encoding.encode image.areas ++ image.beyond).take image.mapReadable = _
    rw [offsets, last, ← length]
    change ((offsetValues 0 image.areas ++ _) ++ image.beyond).take _ = _
    rw [List.append_assoc, List.take_left]
  have used : image.chunk.mapUsed = (offsetValues 0 image.areas).length := length.symm
  have values : image.chunk.map.take image.chunk.mapUsed = offsetValues 0 image.areas := by
    rw [map, used, List.take_length]
  have long : ¬ image.chunk.map.length < image.chunk.mapUsed := by
    rw [map, used]
    exact lt_irrefl _
  have sentry : image.chunk.map[image.chunk.mapUsed]? = none := by
    rw [map, used]
    exact List.getElem?_eq_none (le_refl _)
  rcases scanOffsets_settled (image.baseAddr - baseAddr) image.areas image.valid cache with
    ⟨found, closed⟩
  have base : image.chunk.baseAddr = image.baseAddr := rfl
  rw [setupDynamicOffsetCacheAreaMap]
  simp only [values, long, decide_false, Bool.false_eq_true, if_false, offsetValues_nonneg, sentry, base]
  cases open_ : (scanOffsets (image.baseAddr - baseAddr) (offsetValues 0 image.areas)
      ⟨0, none, cache⟩).start with
  | none => rw [if_pos (closed.mp open_), found]
  | some start =>
      have needed : ¬ settled image.areas = image.areas := by
        intro same
        rw [closed.mpr same] at open_
        cases open_
      simp only [if_neg needed, found]

theorem stores_of_long (long : (image.encoding.encode image.areas).length ≤ image.mapReadable) :
    image.chunk.Stores image.encoding image.areas := by
  refine ⟨rfl, image.beyond.take (image.mapReadable - (image.encoding.encode image.areas).length), ?_⟩
  exact List.take_append.trans (by rw [List.take_of_length_le long])

/-- What a chunk adds to the cache, and whether it raises an exception. -/
theorem setupAreaMap_image (image : ChunkImage) (baseAddr : Int) (cache : OffsetCache) :
    setupDynamicOffsetCacheAreaMap (some baseAddr) image.chunk cache =
      (cache ++ Segments.runs none (image.baseAddr - baseAddr) image.areasFound,
        if image.MapComplete then none else some .unreadable) := by
  cases encoding : image.encoding with
  | lengths =>
      have complete : image.MapComplete <-> image.areas.length ≤ image.mapReadable := by
        simp only [MapComplete]
        rw [encoding]
        exact and_iff_left fun impossible => MapEncoding.noConfusion impossible
      have found : image.areasFound = if image.mapReadable < image.areas.length then
          settled (image.areas.take image.mapReadable) else image.areas := by
        simp only [areasFound]
        rw [encoding]
      by_cases short : image.mapReadable < image.areas.length
      · rw [setupAreaMap_lengths_short encoding short, found, if_pos short,
          if_neg fun all => absurd (complete.mp all) (Nat.not_le.mpr short)]
      · have long : (image.encoding.encode image.areas).length ≤ image.mapReadable := by
          rw [encoding]
          exact (List.length_map _).le.trans (Nat.not_lt.mp short)
        rw [setupAreaMap_spec image.valid (stores_of_long long), found, if_neg short,
          if_pos (complete.mpr (Nat.not_lt.mp short))]
        rfl
  | offsets =>
      have found : image.areasFound = if image.mapReadable < image.areas.length then []
          else if image.mapReadable = image.areas.length then settled image.areas else image.areas := by
        simp only [areasFound]
        rw [encoding]
      rcases Nat.lt_trichotomy image.mapReadable image.areas.length with short | last | long
      · rw [setupAreaMap_offsets_short encoding short, found, if_pos short,
          if_neg fun all => absurd all.1 (Nat.not_le.mpr short)]
        exact congrArg (·, _) (List.append_nil cache).symm
      · have complete : image.MapComplete <-> settled image.areas = image.areas :=
          ⟨fun all => all.2 encoding last, fun same => ⟨last.ge, fun _ _ => same⟩⟩
        rw [setupAreaMap_offsets_unclosed encoding last, found, if_neg (Nat.not_lt.mpr last.ge), if_pos last]
        simp only [complete]
      · have whole : (image.encoding.encode image.areas).length ≤ image.mapReadable := by
          rw [encoding]
          change (offsetValues 0 image.areas ++ [_]).length ≤ _
          rw [List.length_append, offsetValues_length]
          exact long
        rw [setupAreaMap_spec image.valid (stores_of_long whole), found,
          if_neg (Nat.not_lt.mpr long.le), if_neg long.ne',
          if_pos ⟨long.le, fun _ same => absurd same long.ne'⟩]
        rfl

theorem areasFound_start (image : ChunkImage) : image.areasFound <+: image.areas := by
  simp only [areasFound]
  cases image.encoding with
  | lengths =>
      dsimp only
      split
      · exact (settled_start _).trans (List.take_prefix _ _)
      · exact List.prefix_refl _
  | offsets =>
      dsimp only
      split
      · exact List.nil_prefix
      · split
        · exact settled_start _
        · exact List.prefix_refl _

theorem areasFound_of_complete {image : ChunkImage} (complete : image.MapComplete) :
    image.areasFound = image.areas := by
  rcases complete with ⟨long, closed⟩
  simp only [areasFound]
  cases encoding : image.encoding with
  | lengths => exact if_neg (Nat.not_lt.mpr long)
  | offsets =>
      by_cases last : image.mapReadable = image.areas.length
      · exact (if_neg (Nat.not_lt.mpr long)).trans ((if_pos last).trans (closed encoding last))
      · exact (if_neg (Nat.not_lt.mpr long)).trans (if_neg last)

end ChunkImage

/-! ## Memory -/

/-- The memory that the cache is built from, with all symbols resolved.  A chunk is
known by the address of its member `list`. -/
structure PcpuImage where
  useAreaMap : Bool
  nrSlots : Nat
  slotHead : Nat -> Nat
  lists : MemoryImage ListHead
  chunkAt : Nat -> ChunkImage
  pcpuBaseAddr : Int
  pageSize : Nat

/-- The node is on the list: the links lead from the head to it, with neither the head
nor NULL on the way, and it can be read. -/
def OnList (lists : MemoryImage ListHead) (head node : Nat) : Prop :=
  Exists fun index : Nat => listChain lists {} head (index + 1) = some node ∧
    (forall before, before ≤ index -> listChain lists {} head (before + 1) ≠ some head ∧
      listChain lists {} head (before + 1) ≠ some 0) ∧
    (lists.read node).isSome

/-- A walk yields only nodes that are on the list. -/
theorem onList_of_yields {lists : MemoryImage ListHead} {head node : Nat}
    (yields : node ∈ yieldedNodes (listRun lists {} head).events) : OnList lists head node := by
  rcases (listRun_walked lists head rfl : (listRun lists {} head).events = [] ∨ _) with
    empty | ⟨count, before, emitted, walk, invariant, stops, shape⟩
  · rw [empty] at yields
    exact False.elim (List.not_mem_nil yields)
  · have readable : forall index, index < count -> listChain lists {} head (index + 1) = some node ->
        (lists.read node).isSome := by
      intro index inside here
      have further : (listChain lists {} head (count + 1)).isSome := by
        rw [invariant.nodeAt]
        rfl
      rcases readable_of_listChain_succ here (orbit_isSome_of_le (by omega) further) with ⟨cell, read⟩
      rw [read]
      rfl
    have avoids : forall index, index + 1 ≤ count ->
        listChain lists {} head (index + 1) ≠ some head ∧ listChain lists {} head (index + 1) ≠ some 0 := by
      intro index inside
      rcases invariant.passed (index + 1) (Nat.succ_pos _) inside with ⟨address, here, other, nonNull, _⟩
      rw [here]
      exact ⟨fun same => other (Option.some.inj same), fun same => nonNull (Option.some.inj same)⟩
    rw [shape, yieldedNodes_append] at yields
    rcases List.mem_append.mp yields with passed | last
    · rcases walkInvariant_yields invariant passed with ⟨index, inside, here⟩
      exact ⟨index, here, fun early earlier => avoids early (by omega), readable index inside here⟩
    · have ended : node = walk.node ∧ walk.node ≠ head ∧ (lists.read walk.node).isSome := by
        generalize (listRun lists {} head).ending = ending at stops
        cases stops with
        | atHead here silent ends =>
            rw [silent] at last
            exact False.elim (List.not_mem_nil last)
        | revisited notHead mode seen silent =>
            rw [silent] at last
            exact False.elim (List.not_mem_nil last)
        | unreadable notHead unmapped silent =>
            rw [silent] at last
            exact False.elim (List.not_mem_nil last)
        | null cell notHead readable null yields =>
            rw [yields] at last
            exact ⟨List.mem_singleton.mp last, notHead, Option.isSome_of_eq_some readable⟩
        | caught cell notHead readable yields meets =>
            rw [yields] at last
            exact ⟨List.mem_singleton.mp last, notHead, Option.isSome_of_eq_some readable⟩
      rcases ended with ⟨rfl, notHead, found⟩
      refine ⟨count, invariant.nodeAt, ?_, found⟩
      intro early earlier
      rcases Nat.lt_or_eq_of_le earlier with before | rfl
      · exact avoids early before
      · rw [invariant.nodeAt]
        exact ⟨fun same => notHead (Option.some.inj same),
          fun same => invariant.nonNull (Option.some.inj same)⟩

/-- A walk that completes has yielded all nodes of the list. -/
theorem yields_of_onList {lists : MemoryImage ListHead} {head node : Nat}
    (completed : (listRun lists {} head).ending = .completed) (listed : OnList lists head node) :
    node ∈ yieldedNodes (listRun lists {} head).events := by
  rcases ring_of_completed (listRun_cases lists {} head) completed with ⟨around, ring, _, yields⟩
  rcases listed with ⟨index, here, avoids, _⟩
  rw [yields]
  change node ∈ around
  rcases Nat.lt_or_ge index around.length with inside | outside
  · rw [ring.visits index inside] at here
    exact List.mem_of_getElem? here
  · exact absurd ring.returns (avoids around.length outside).1

namespace PcpuImage

variable (image : PcpuImage)

/-- The chunks at some nodes, up to the first that cannot be read. -/
def readChunks (ending : Ending PercpuError) : List Nat -> Run PcpuChunk PercpuError
  | [] => ⟨[], ending⟩
  | node :: rest =>
      if (image.chunkAt node).readable then
        (readChunks ending rest).after [(image.chunkAt node).chunk]
      else ⟨[], .raised .unreadable⟩

/-- How the walk along a slot's list ends. -/
def slotEnding (slot : Nat) : Ending PercpuError :=
  match (listRun image.lists {} (image.slotHead slot)).ending with
  | .completed => .completed
  | .raised error => .raised (.list error)

/-- The nodes that the walk along a slot's list yields. -/
def slotNodes (slot : Nat) : List Nat :=
  yieldedNodes (listRun image.lists {} (image.slotHead slot)).events

/-- What a query can read. -/
def target : PcpuTarget where
  useAreaMap := some image.useAreaMap
  nrSlots := some image.nrSlots
  slots := some fun slot => image.readChunks (image.slotEnding slot) (image.slotNodes slot)
  pcpuBaseAddr := some image.pcpuBaseAddr
  pageSize := image.pageSize

/-- The address of a chunk's first unit, as a percpu variable. -/
def chunkBase (node : Nat) : Int :=
  (image.chunkAt node).baseAddr - image.pcpuBaseAddr

/-- The address lies in one of the areas, or anywhere in the chunk if the kernel has
bitmaps instead of maps. -/
def InAreas (areas : List Segment) (node : Nat) (var : Int) : Prop :=
  if image.useAreaMap then Segments.MarkedAt (image.chunkBase node) areas var
  else image.chunkBase node ≤ var ∧
    var < image.chunkBase node + (((image.chunkAt node).nrPages * image.pageSize : Nat) : Int)

/-- The address lies in an area in use of some chunk of some slot. -/
def Used (var : Int) : Prop :=
  Exists fun slot : Nat => slot < image.nrSlots ∧ Exists fun node : Nat =>
    OnList image.lists (image.slotHead slot) node ∧
      image.InAreas (image.chunkAt node).areas node var

/-- One chunk in the course of building the cache. -/
def chunkRun (node : Nat) : Run Nat PercpuError :=
  if (image.chunkAt node).readable then
    ⟨[node], if image.useAreaMap = true -> (image.chunkAt node).MapComplete then .completed
      else .raised .unreadable⟩
  else ⟨[], .raised .unreadable⟩

/-- One slot in the course of building the cache. -/
def slotRun (slot : Nat) : Run Nat PercpuError :=
  (Run.chain ((image.slotNodes slot).map image.chunkRun)).followedBy ⟨[], image.slotEnding slot⟩

/-- The nodes of the chunks that are looked at, one after another, and how this ends. -/
def building : Run Nat PercpuError :=
  Run.chain ((List.range image.nrSlots).map image.slotRun)

/-- The ranges of one chunk, as far as they are found. -/
def rangesFound (node : Nat) : OffsetCache :=
  if image.useAreaMap then
    Segments.runs none (image.chunkBase node) (image.chunkAt node).areasFound
  else [(image.chunkBase node,
    image.chunkBase node + (((image.chunkAt node).nrPages * image.pageSize : Nat) : Int))]

/-- A range of the chunk is found. -/
def FindsRange (node : Nat) : Prop :=
  image.useAreaMap = true -> Exists fun area : Segment =>
    area ∈ (image.chunkAt node).areasFound ∧ area.marked = true

variable {image}

theorem covers_rangesFound (node : Nat) (var : Int) :
    Covers (image.rangesFound node) var <->
      image.InAreas (image.chunkAt node).areasFound node var := by
  simp only [rangesFound, InAreas]
  cases image.useAreaMap with
  | true => exact (Segments.covers_runs _ _ _).1
  | false =>
      constructor
      · rintro ⟨range, member, inside⟩
        rw [List.mem_singleton.mp member] at inside
        exact inside
      · exact fun inside => ⟨_, List.mem_singleton_self _, inside⟩

theorem rangesFound_ne_nil (node : Nat) : image.rangesFound node ≠ [] <-> image.FindsRange node := by
  simp only [rangesFound, FindsRange]
  cases image.useAreaMap with
  | true =>
      rw [if_pos rfl, Ne, Segments.runs_eq_nil_iff]
      simp only [not_forall, exists_prop, Bool.not_eq_false, forall_const]
  | false => simp

/-- What is found of a chunk is in use. -/
theorem inAreas_of_found {node : Nat} {var : Int}
    (found : image.InAreas (image.chunkAt node).areasFound node var) :
    image.InAreas (image.chunkAt node).areas node var := by
  simp only [InAreas] at found ⊢
  split
  · next areaMap =>
      rw [if_pos areaMap] at found
      exact found.of_prefix (image.chunkAt node).areasFound_start
  · next bitmap =>
      rw [if_neg bitmap] at found
      exact found

theorem setupChunk_image (node : Nat) (cache : OffsetCache) :
    image.target.setupChunk image.useAreaMap (image.chunkAt node).chunk cache =
      (cache ++ image.rangesFound node,
        if image.useAreaMap = true -> (image.chunkAt node).MapComplete then none
        else some .unreadable) := by
  simp only [PcpuTarget.setupChunk, rangesFound]
  cases image.useAreaMap with
  | true =>
      rw [if_pos rfl, if_pos rfl]
      refine (ChunkImage.setupAreaMap_image _ _ _).trans ?_
      simp only [forall_true_left]
      rfl
  | false =>
      simp only [Bool.false_eq_true, if_false, false_implies, if_true]
      exact congrArg (fun base => (cache ++ [(base, _)], none)) (Int.add_zero _)

/-- Building the cache from the chunks of one slot. -/
theorem setupChunks_image (ending : Ending PercpuError) (nodes : List Nat) (cache : OffsetCache) :
    image.target.setupChunks image.useAreaMap (image.readChunks ending nodes).ending
        (image.readChunks ending nodes).events cache =
      (cache ++ ((Run.chain (nodes.map image.chunkRun)).followedBy ⟨[], ending⟩).events.flatMap
          image.rangesFound,
        ((Run.chain (nodes.map image.chunkRun)).followedBy ⟨[], ending⟩).ending.exception) := by
  induction nodes generalizing cache with
  | nil =>
      have ended : (cache, ending.exception) = (cache ++ [], ending.exception) :=
        congrArg (·, _) (List.append_nil cache).symm
      cases ending with
      | completed => exact ended
      | raised error => exact ended
  | cons node rest inductionHypothesis =>
      have chained : (Run.chain ((node :: rest).map image.chunkRun)).followedBy ⟨[], ending⟩ =
          (image.chunkRun node).followedBy
            ((Run.chain (rest.map image.chunkRun)).followedBy ⟨[], ending⟩) :=
        Run.followedBy_assoc _ _ _
      rw [chained]
      simp only [readChunks, chunkRun]
      by_cases readable : (image.chunkAt node).readable = true
      · rw [if_pos readable, if_pos readable]
        change image.target.setupChunks _ _ ((image.chunkAt node).chunk :: _) cache = _
        rw [PcpuTarget.setupChunks, setupChunk_image]
        by_cases complete : image.useAreaMap = true -> (image.chunkAt node).MapComplete
        · rw [if_pos complete, if_pos complete]
          refine (inductionHypothesis (cache ++ image.rangesFound node)).trans ?_
          exact congrArg (·, _) (List.append_assoc _ _ _)
        · rw [if_neg complete, if_neg complete]
          change (_, some PercpuError.unreadable) = (cache ++ (image.rangesFound node ++ []), _)
          rw [List.append_nil]
          rfl
      · rw [if_neg readable, if_neg readable]
        exact congrArg (·, _) (List.append_nil cache).symm

/-- Building the cache. -/
theorem setupSlots_image (numbers : List Nat) (cache : OffsetCache) :
    image.target.setupSlots image.useAreaMap numbers cache =
      (cache ++ (Run.chain (numbers.map image.slotRun)).events.flatMap image.rangesFound,
        (Run.chain (numbers.map image.slotRun)).ending.exception) := by
  induction numbers generalizing cache with
  | nil => exact congrArg (·, none) (List.append_nil cache).symm
  | cons slot rest inductionHypothesis =>
      have slots : image.target.slots =
          some fun slot => image.readChunks (image.slotEnding slot) (image.slotNodes slot) := rfl
      have here : image.target.setupChunks _ _ _ cache = _ :=
        setupChunks_image (image.slotEnding slot) (image.slotNodes slot) cache
      change _ = (cache ++ (image.slotRun slot).events.flatMap _, (image.slotRun slot).ending.exception) at here
      rw [PcpuTarget.setupSlots, slots]
      simp only [here]
      have chained : Run.chain ((slot :: rest).map image.slotRun) =
          (image.slotRun slot).followedBy (Run.chain (rest.map image.slotRun)) := rfl
      rw [chained]
      cases ended : (image.slotRun slot).ending with
      | completed =>
          rw [Run.followedBy_of_completed ended]
          refine (inductionHypothesis _).trans ?_
          rw [List.append_assoc, ← List.flatMap_append]
          rfl
      | raised error =>
          rw [Run.followedBy_of_raised ended, ended]
          rfl

theorem setupDynamicOffsetCache_image (cache : OffsetCache) :
    image.target.setupDynamicOffsetCache cache =
      (cache ++ image.building.events.flatMap image.rangesFound, image.building.ending.exception) :=
  setupSlots_image (List.range image.nrSlots) cache

/-! ## What is found -/

variable (image)

/-- The ranges that building the cache from the start adds. -/
def found : OffsetCache :=
  image.building.events.flatMap image.rangesFound

variable {image}

theorem covers_found (var : Int) : Covers image.found var <->
    Exists fun node : Nat => node ∈ image.building.events ∧
      image.InAreas (image.chunkAt node).areasFound node var := by
  constructor
  · rintro ⟨range, member, inside⟩
    rcases List.mem_flatMap.mp member with ⟨node, visited, member⟩
    exact ⟨node, visited, (covers_rangesFound node var).mp ⟨range, member, inside⟩⟩
  · rintro ⟨node, visited, inside⟩
    rcases (covers_rangesFound node var).mpr inside with ⟨range, member, inside⟩
    exact ⟨range, List.mem_flatMap.mpr ⟨node, visited, member⟩, inside⟩

theorem found_ne_nil : image.found ≠ [] <->
    Exists fun node : Nat => node ∈ image.building.events ∧ image.FindsRange node := by
  simp only [found]
  rw [Ne, List.flatMap_eq_nil_iff, not_forall]
  simp only [not_forall, exists_prop, ← rangesFound_ne_nil]

theorem slotRun_events (slot : Nat) :
    (image.slotRun slot).events = (Run.chain ((image.slotNodes slot).map image.chunkRun)).events := by
  simp only [slotRun]
  cases ended : (Run.chain ((image.slotNodes slot).map image.chunkRun)).ending with
  | completed =>
      rw [Run.followedBy_of_completed ended]
      exact List.append_nil _
  | raised error => rw [Run.followedBy_of_raised ended]

/-- Only chunks on the lists of the slots are looked at. -/
theorem onList_of_building {node : Nat} (visited : node ∈ image.building.events) :
    Exists fun slot : Nat => slot < image.nrSlots ∧ OnList image.lists (image.slotHead slot) node := by
  rcases Run.mem_chain visited with ⟨run, listed, visited⟩
  rcases List.mem_map.mp listed with ⟨slot, inside, rfl⟩
  rw [slotRun_events] at visited
  rcases Run.mem_chain visited with ⟨run, listed, visited⟩
  rcases List.mem_map.mp listed with ⟨other, yields, rfl⟩
  have same : node = other := by
    simp only [chunkRun] at visited
    split at visited
    · exact List.mem_singleton.mp visited
    · exact False.elim (List.not_mem_nil visited)
  rw [same]
  exact ⟨slot, List.mem_range.mp inside, onList_of_yields yields⟩

theorem used_of_found {var : Int} (covered : Covers image.found var) : image.Used var := by
  rcases (covers_found var).mp covered with ⟨node, visited, inside⟩
  rcases onList_of_building visited with ⟨slot, inRange, listed⟩
  exact ⟨slot, inRange, node, listed, inAreas_of_found inside⟩

theorem slotRun_completed {slot : Nat} (completed : (image.slotRun slot).ending = .completed) :
    (Run.chain ((image.slotNodes slot).map image.chunkRun)).ending = .completed ∧
      (listRun image.lists {} (image.slotHead slot)).ending = .completed := by
  simp only [slotRun] at completed
  cases ended : (Run.chain ((image.slotNodes slot).map image.chunkRun)).ending with
  | raised error =>
      rw [Run.followedBy_of_raised ended] at completed
      cases ended.symm.trans completed
  | completed =>
      rw [Run.followedBy_of_completed ended] at completed
      change image.slotEnding slot = .completed at completed
      simp only [slotEnding] at completed
      cases walked : (listRun image.lists {} (image.slotHead slot)).ending with
      | completed => exact ⟨rfl, rfl⟩
      | raised error =>
          rw [walked] at completed
          cases completed

theorem chunkRun_completed {node : Nat} (completed : (image.chunkRun node).ending = .completed) :
    node ∈ (image.chunkRun node).events ∧
      (image.useAreaMap = true -> (image.chunkAt node).MapComplete) := by
  simp only [chunkRun] at completed ⊢
  by_cases readable : (image.chunkAt node).readable = true
  · rw [if_pos readable] at completed ⊢
    refine ⟨List.mem_singleton_self node, ?_⟩
    by_contra incomplete
    rw [if_neg incomplete] at completed
    cases completed
  · rw [if_neg readable] at completed
    cases completed

/-- When building the cache completes, all areas in use are found. -/
theorem found_of_used (completed : image.building.ending = .completed) {var : Int}
    (used : image.Used var) : Covers image.found var := by
  rcases used with ⟨slot, inRange, node, listed, inside⟩
  rcases Run.chain_completed completed
    (List.mem_map_of_mem (List.mem_range.mpr inRange)) with ⟨slotDone, slotEvents⟩
  rcases slotRun_completed slotDone with ⟨chunksDone, listDone⟩
  rcases Run.chain_completed chunksDone
    (List.mem_map_of_mem (yields_of_onList listDone listed)) with ⟨chunkDone, chunkEvents⟩
  rcases chunkRun_completed chunkDone with ⟨member, complete⟩
  rw [covers_found]
  refine ⟨node, slotEvents node ?_, ?_⟩
  · rw [slotRun_events]
    exact chunkEvents node member
  · simp only [InAreas] at inside ⊢
    split
    · next areaMap =>
        rw [if_pos areaMap] at inside
        rw [ChunkImage.areasFound_of_complete (complete areaMap)]
        exact inside
    · next bitmap =>
        rw [if_neg bitmap] at inside
        exact inside

/-- No symbol is missing, so that no exception is passed over. -/
theorem building_not_delayed : image.building.ending ≠ .raised .delayed := by
  intro raised
  rcases Run.chain_raised raised with ⟨run, listed, raised⟩
  rcases List.mem_map.mp listed with ⟨slot, _, rfl⟩
  simp only [slotRun] at raised
  cases ended : (Run.chain ((image.slotNodes slot).map image.chunkRun)).ending with
  | completed =>
      rw [Run.followedBy_of_completed ended] at raised
      change image.slotEnding slot = _ at raised
      simp only [slotEnding] at raised
      split at raised
      · cases raised
      · cases raised
  | raised error =>
      rw [Run.followedBy_of_raised ended] at raised
      rcases Run.chain_raised raised with ⟨run, listed, raised⟩
      rcases List.mem_map.mp listed with ⟨node, _, rfl⟩
      simp only [chunkRun] at raised
      split at raised
      · dsimp only at raised
        split at raised
        · cases raised
        · cases raised
      · cases raised

/-! ## Answers -/

/-- A query with an empty cache builds it, and any other uses it as it is. -/
theorem isPercpuVarDynamic_image (var : Int) {cache : OffsetCache}
    (before : cache = [] ∨ cache = image.found) :
    (image.target.isPercpuVarDynamic var cache).1 = image.found ∧
      forall answer, (image.target.isPercpuVarDynamic var cache).2 = .ok answer ->
        answer = inOffsetCache var image.found ∧
          (image.building.ending = .completed ∨ image.found ≠ []) := by
  have built : image.target.setupDynamicOffsetCache [] =
      (image.found, image.building.ending.exception) := setupDynamicOffsetCache_image []
  simp only [PcpuTarget.isPercpuVarDynamic]
  cases empty : cache.isEmpty with
  | true =>
      have nothing := List.isEmpty_iff.mp empty
      rw [if_pos rfl, nothing, built]
      cases ended : image.building.ending with
      | completed => exact ⟨rfl, fun answer returned => ⟨(Except.ok.inj returned).symm, Or.inl rfl⟩⟩
      | raised error =>
          cases error with
          | delayed => exact False.elim (building_not_delayed ended)
          | unreadable =>
              refine ⟨rfl, ?_⟩
              intro answer returned
              cases returned
          | list error =>
              refine ⟨rfl, ?_⟩
              intro answer returned
              cases returned
  | false =>
      have nonempty : cache ≠ [] := fun nothing => by
        rw [nothing] at empty
        cases empty
      have same := before.resolve_left nonempty
      rw [if_neg Bool.false_ne_true, same]
      exact ⟨rfl, fun answer returned => ⟨(Except.ok.inj returned).symm, Or.inr (same ▸ nonempty)⟩⟩

variable (image)

/-- The attributes that queries of this memory leave. -/
def Reached (cls after : PerCPURanges) : Prop :=
  after.staticRanges = cls.staticRanges ∧ after.moduleRanges = cls.moduleRanges ∧
    (after.dynamicOffsetCache = [] ∨ after.dynamicOffsetCache = image.found)

variable {image}

theorem reached_query {cls before : PerCPURanges} (reached : image.Reached cls before) (var : Int) :
    image.Reached cls (image.target.isPercpuVar var before).1 := by
  simp only [PcpuTarget.isPercpuVar]
  split
  · exact reached
  · split
    · exact reached
    · exact ⟨reached.1, reached.2.1, Or.inr (isPercpuVarDynamic_image var reached.2.2).1⟩

theorem reached_queries {cls before : PerCPURanges} (reached : image.Reached cls before)
    (queries : List Int) : image.Reached cls (image.target.afterQueries before queries) := by
  simp only [PcpuTarget.afterQueries]
  induction queries generalizing before with
  | nil => exact reached
  | cons var rest inductionHypothesis => exact inductionHypothesis (reached_query reached var)

variable (image)

/-- What a query should answer: whether the address lies in a static or a module range, or
in an area in use of some chunk. -/
def IsPercpu (cls : PerCPURanges) (var : Int) : Prop :=
  cls.isStaticPercpuVar var = true ∨ cls.isModulePercpuVar var = true ∨ image.Used var

/-- Building the cache does no harm: it completes, or raises before it finds a range, or
raises when it has found all areas in use that the other ranges do not contain. -/
def SafelyBuilt (cls : PerCPURanges) : Prop :=
  image.building.ending = .completed ∨
    (forall node, node ∈ image.building.events -> ¬ image.FindsRange node) ∨
    forall var, image.Used var -> cls.isStaticPercpuVar var = true ∨
      cls.isModulePercpuVar var = true ∨
      Exists fun node : Nat => node ∈ image.building.events ∧
        image.InAreas (image.chunkAt node).areasFound node var

variable {image}

/-- Where building the cache does harm, an address in use is not found in a cache that
is trusted. -/
theorem harm_of_unsafe {cls : PerCPURanges} (harmful : ¬ image.SafelyBuilt cls) :
    image.building.ending ≠ .completed ∧ image.found ≠ [] ∧
      Exists fun var : Int => image.Used var ∧ ¬ cls.isStaticPercpuVar var = true ∧
        ¬ cls.isModulePercpuVar var = true ∧ ¬ Covers image.found var := by
  simp only [SafelyBuilt] at harmful
  rcases not_or.mp harmful with ⟨cut, harmful⟩
  rcases not_or.mp harmful with ⟨finds, missing⟩
  refine ⟨cut, ?_, ?_⟩
  · rw [found_ne_nil]
    simpa only [not_forall, exists_prop, not_not] using finds
  · rcases not_forall.mp missing with ⟨var, missing⟩
    rcases Classical.not_imp.mp missing with ⟨used, missing⟩
    rcases not_or.mp missing with ⟨outside, missing⟩
    rcases not_or.mp missing with ⟨beyond, missing⟩
    exact ⟨var, used, outside, beyond, fun covered => missing ((covers_found var).mp covered)⟩

/-- A query that gets to the dynamic ranges. -/
theorem isPercpuVar_dynamic {cls : PerCPURanges} {var : Int} (outside : ¬ cls.isStaticPercpuVar var = true)
    (beyond : ¬ cls.isModulePercpuVar var = true) (target : PcpuTarget) :
    target.isPercpuVar var cls =
      ({ cls with dynamicOffsetCache := (target.isPercpuVarDynamic var cls.dynamicOffsetCache).1 },
        (target.isPercpuVarDynamic var cls.dynamicOffsetCache).2) := by
  simp only [PcpuTarget.isPercpuVar]
  rw [if_neg outside, if_neg beyond]

/-- A cache that has been filled gives its answer. -/
theorem isPercpuVarDynamic_filled {cache : OffsetCache} (filled : cache ≠ []) (var : Int)
    (target : PcpuTarget) :
    (target.isPercpuVarDynamic var cache).2 = .ok (inOffsetCache var cache) := by
  simp only [PcpuTarget.isPercpuVarDynamic]
  rw [if_neg fun empty => filled (List.isEmpty_iff.mp empty)]

end PcpuImage

/-- In a safely built image, an answer after any queries is the right one. -/
theorem PcpuImage.answer_iff_isPercpu {image : PcpuImage} {start before : PerCPURanges}
    (safe : image.SafelyBuilt start) (reached : image.Reached start before) {var : Int} {answer : Bool}
    (returned : (image.target.isPercpuVar var before).2 = .ok answer) :
    answer = true <-> image.IsPercpu start var := by
  rcases reached with ⟨sameStatic, sameModule, cache⟩
  have static : before.isStaticPercpuVar var = start.isStaticPercpuVar var :=
    congrArg (inRanges var) sameStatic
  have module : before.isModulePercpuVar var = start.isModulePercpuVar var :=
    congrArg (inRanges var) sameModule
  simp only [PcpuTarget.isPercpuVar] at returned
  simp only [PcpuImage.IsPercpu]
  rw [← static, ← module]
  split at returned
  · next inStatic =>
      cases returned
      exact iff_of_true rfl (Or.inl inStatic)
  · next outside =>
      split at returned
      · next inModule =>
          cases returned
          exact iff_of_true rfl (Or.inr (Or.inl inModule))
      · next beyond =>
          rcases (PcpuImage.isPercpuVarDynamic_image var cache).2 answer returned with ⟨rfl, trusted⟩
          rw [inOffsetCache_eq_true, or_iff_right outside, or_iff_right beyond]
          refine ⟨PcpuImage.used_of_found, fun used => ?_⟩
          rcases safe with completed | nothing | enough
          · exact PcpuImage.found_of_used completed used
          · rcases trusted with completed | nonempty
            · exact PcpuImage.found_of_used completed used
            · rcases PcpuImage.found_ne_nil.mp nonempty with ⟨node, visited, finds⟩
              exact absurd finds (nothing node visited)
          · rw [static] at outside
            rw [module] at beyond
            have inside := ((enough var used).resolve_left outside).resolve_left beyond
            exact (PcpuImage.covers_found var).mpr inside

/-- When no sequence of queries goes wrong. -/
theorem queries_answer_iff (image : PcpuImage) (staticRanges moduleRanges : List (Int × Int)) :
    (forall (queries : List Int) (var : Int) (answer : Bool),
      (image.target.isPercpuVar var
        (image.target.afterQueries ⟨staticRanges, moduleRanges, []⟩ queries)).2 = .ok answer ->
      (answer = true <-> image.IsPercpu ⟨staticRanges, moduleRanges, []⟩ var)) <->
      image.SafelyBuilt ⟨staticRanges, moduleRanges, []⟩ := by
  constructor
  · intro right
    by_contra harmful
    rcases PcpuImage.harm_of_unsafe harmful with ⟨_, nonempty, var, used, outside, beyond, uncovered⟩
    have first : image.target.afterQueries ⟨staticRanges, moduleRanges, []⟩ [var] =
        ⟨staticRanges, moduleRanges, image.found⟩ := by
      change (image.target.isPercpuVar var _).1 = _
      rw [PcpuImage.isPercpuVar_dynamic outside beyond,
        (PcpuImage.isPercpuVarDynamic_image var (Or.inl rfl)).1]
    have second : (image.target.isPercpuVar var ⟨staticRanges, moduleRanges, image.found⟩).2 =
        .ok (inOffsetCache var image.found) := by
      have still : ¬ PerCPURanges.isStaticPercpuVar ⟨staticRanges, moduleRanges, image.found⟩ var = true :=
        outside
      rw [PcpuImage.isPercpuVar_dynamic still beyond]
      exact PcpuImage.isPercpuVarDynamic_filled nonempty var _
    rw [← first] at second
    have covered := (right [var] var _ second).mpr (Or.inr (Or.inr used))
    exact uncovered ((inOffsetCache_eq_true _ _).mp covered)
  · intro safe queries var answer returned
    have reached : image.Reached ⟨staticRanges, moduleRanges, []⟩ ⟨staticRanges, moduleRanges, []⟩ :=
      ⟨rfl, rfl, Or.inl rfl⟩
    exact PcpuImage.answer_iff_isPercpu safe (PcpuImage.reached_queries reached queries) returned

/-- A chunk with a single area, which is in use. -/
def oneAreaChunk (baseAddr : Int) : ChunkImage where
  baseAddr := baseAddr
  nrPages := 1
  encoding := .offsets
  areas := [⟨4, true⟩]
  valid := by decide
  beyond := []
  mapReadable := 2
  readable := true

/-- Three slots.  The lists of the first and of the last have one chunk each, and the
list head of the one between them has a NULL link. -/
def nullSlotImage : PcpuImage where
  useAreaMap := true
  nrSlots := 3
  slotHead := fun slot => 100 + 100 * slot
  lists := MemoryImage.ofTable
    [(100, ⟨16, 16⟩), (16, ⟨100, 100⟩), (200, ⟨0, 0⟩), (300, ⟨24, 24⟩), (24, ⟨300, 300⟩)]
  chunkAt := fun node => oneAreaChunk (if node = 16 then 4096 else 8192)
  pcpuBaseAddr := 4096
  pageSize := 4096

/-- The first query raises a `CorruptListError`.  The second one, for the same address in
an area in use, returns that it is no percpu variable. -/
theorem partial_cache_is_trusted :
    (nullSlotImage.target.isPercpuVar 4097 ⟨[], [], []⟩).2 = .error (.list (.firstNull .next)) ∧
      (nullSlotImage.target.isPercpuVar 4097 (nullSlotImage.target.afterQueries ⟨[], [], []⟩ [4097])).2 =
        .ok false ∧
      nullSlotImage.Used 4097 := by
  refine ⟨by decide, by decide, 2, by decide, 24, ⟨0, rfl, ?_, rfl⟩, ?_⟩
  · intro before first
    rw [Nat.le_zero.mp first]
    decide
  · change Segments.MarkedAt _ _ _
    exact Or.inl ⟨rfl, by decide, by decide⟩

end Types
end CrashPython

import CrashPython.Library.History
import CrashPython.Types.Page
import Mathlib.Data.List.Perm.Basic

namespace CrashPython
namespace Types

open Library

/-!
# The callbacks of `crash/types/page.py`

Class `Page` is filled in by callbacks, one for each type or symbol that it needs.
Which of them comes first depends on how the debug information is loaded.  Most of them
write attributes of their own.  Two wait for each other: the last of `setup_page_type`
and `setup_pageflags` calls `setup_pageflags_finish`.

Some of them read what another one writes.  On powerpc `setup_page_type` knows another
page size than the one that `setup_mem_section` finds before it, and another base of the
direct mapping, which it writes even if a symbol has already given the right one.

A callback that raises an exception keeps what it has written.
-/

/-- The exceptions of the callbacks. -/
inductive PageSetupError where
  | unrecognizedType (variant : String)
  | keyError (key : String)
  | mathDomain
  | zeroDivision
deriving DecidableEq, Repr

/-- The attributes of class `Page` that the callbacks read and write.  A dictionary has
the newest item first.  `finishRuns` counts the calls of `setup_pageflags_finish`. -/
structure PageState where
  slabCacheName : Option String := none
  slabPageName : Option String := none
  compoundHeadName : Option String := none
  vmemmapBase : Nat := 0xffffea0000000000
  vmemmap : Option Nat := none
  directmapBase : Nat := 0xffff880000000000
  pageflags : List (String × Nat) := []
  pgTail : Int := -1
  pgSlab : Int := -1
  pgLru : Int := -1
  setupPageTypeDone : Bool := false
  setupPageflagsDone : Bool := false
  setupPageflagsFinishDone : Bool := false
  zonesWidth : Int := -1
  nodesWidth : Int := -1
  bitsPerLong : Int := -1
  pageSize : Nat := 4096
  pageShift : Nat := 12
  sparsemem : Bool := false
  sectionSizeBits : Int := -1
  sectionsPerRoot : Int := -1
  isTail : Option TailTest := none
  compoundHead : Option HeadLink := none
  finishRuns : Nat := 0
deriving DecidableEq, Repr

/-- What the callbacks find in the kernel: its architecture, its types, its configuration
and its symbols.  `nodesShift` is the integer that the configuration has, or nothing if the
configuration cannot be read.  `log2` is the logarithm of the source, rounded up. -/
structure PageKernel where
  powerpc : Bool
  pageMember : String -> Bool
  pageflags : List (String × Nat)
  maxNrZones : Option Nat
  memSectionSizeof : Nat
  nodesShift : Option Int
  unsignedLongSizeof : Nat
  vmemmapBase : Option Nat
  pageOffsetBase : Option Nat
  log2 : Nat -> Int

/-- What a callback does to the attributes, and the exception that it raises, if any. -/
abbrev PageCall := PageState -> PageState × Option PageSetupError

/-- `1 << cls.pageflags[key]`. -/
def PageState.mask (cls : PageState) (key : String) : Except PageSetupError Nat :=
  match cls.pageflags.lookup key with
  | none => .error (.keyError key)
  | some bit => .ok (1 <<< bit)

/-- The end of `setup_pageflags_finish`, for the kernels whose tail pages have a
combination of two flags. -/
def setupFlagcombo : PageCall := fun cls =>
  match cls.mask "PG_compound" with
  | .error error => (cls, some error)
  | .ok compound =>
      match cls.mask "PG_reclaim" with
      | .error error => (cls, some error)
      | .ok reclaim =>
          ({ cls with pgTail := (compound ||| reclaim : Nat), isTail := some .flagcombo }, none)

/-- `setup_pageflags_finish`. -/
def setupPageflagsFinish : PageCall := fun cls =>
  let cls := { cls with
    setupPageflagsFinishDone := true
    finishRuns := cls.finishRuns + 1
    isTail := some .compoundHeadBit
    compoundHead := some .usesLowBit }
  let cls :=
    match cls.mask "PG_tail" with
    | .error _ => cls
    | .ok mask => { cls with pgTail := (mask : Nat), isTail := some .flag }
  if cls.compoundHeadName = some "first_page" then
    let cls := { cls with compoundHead := some .firstPage }
    if cls.pgTail = -1 then setupFlagcombo cls else (cls, none)
  else (cls, none)

namespace PageKernel

variable (kernel : PageKernel)

/-- `find_member_variant` for two variants. -/
def findMemberVariant (first second : String) : Except PageSetupError String :=
  match [first, second].find? kernel.pageMember with
  | none => .error (.unrecognizedType first)
  | some name => .ok name

/-- The end of `setup_page_type`, after all names are known. -/
def setupPageTypeDone : PageCall := fun cls =>
  let cls : PageState :=
    { cls with vmemmap := some (cls.vmemmap.getD cls.vmemmapBase), setupPageTypeDone := true }
  if cls.setupPageflagsDone = true ∧ cls.setupPageflagsFinishDone = false then
    setupPageflagsFinish cls
  else (cls, none)

/-- `setup_page_type`. -/
def setupPageType : PageCall := fun cls =>
  let cls :=
    if kernel.powerpc then
      { cls with
        pageShift := 16
        directmapBase := 0xc000000000000000
        sparsemem := true
        sectionSizeBits := 24 }
    else cls
  let cls := { cls with pageSize := 1 <<< cls.pageShift }
  match kernel.findMemberVariant "slab_cache" "lru" with
  | .error error => (cls, some error)
  | .ok slabCacheName =>
      let cls := { cls with slabCacheName := some slabCacheName }
      match kernel.findMemberVariant "slab_page" "lru" with
      | .error error => (cls, some error)
      | .ok slabPageName =>
          let cls := { cls with slabPageName := some slabPageName }
          match kernel.findMemberVariant "compound_head" "first_page" with
          | .error error => (cls, some error)
          | .ok compoundHeadName =>
              setupPageTypeDone { cls with compoundHeadName := some compoundHeadName }

/-- `setup_mem_section`. -/
def setupMemSection : PageCall := fun cls =>
  if kernel.memSectionSizeof = 0 then (cls, some .zeroDivision)
  else ({ cls with sectionsPerRoot := (cls.pageSize / kernel.memSectionSizeof : Nat) }, none)

/-- The end of `setup_pageflags`. -/
def setupMasks : PageCall := fun cls =>
  match cls.mask "PG_slab" with
  | .error error => (cls, some error)
  | .ok slab =>
      let cls := { cls with pgSlab := (slab : Nat) }
      match cls.mask "PG_lru" with
      | .error error => (cls, some error)
      | .ok lru => ({ cls with pgLru := (lru : Nat) }, none)

/-- `setup_pageflags`. -/
def setupPageflags : PageCall := fun cls =>
  let cls := { cls with
    pageflags := kernel.pageflags.foldl (fun table field => field :: table) cls.pageflags
    setupPageflagsDone := true }
  if cls.setupPageTypeDone = true ∧ cls.setupPageflagsFinishDone = false then
    match setupPageflagsFinish cls with
    | (cls, some error) => (cls, some error)
    | (cls, none) => setupMasks cls
  else setupMasks cls

/-- `setup_vmemmap_base`, which is not called without the symbol. -/
def setupVmemmapBase : PageCall := fun cls =>
  match kernel.vmemmapBase with
  | none => (cls, none)
  | some base => ({ cls with vmemmapBase := base, vmemmap := some base }, none)

/-- `setup_directmap_base`, which is not called without the symbol. -/
def setupDirectmapBase : PageCall := fun cls =>
  match kernel.pageOffsetBase with
  | none => (cls, none)
  | some base => ({ cls with directmapBase := base }, none)

/-- `setup_zone_type`. -/
def setupZoneType : PageCall := fun cls =>
  match kernel.maxNrZones with
  | none => (cls, some (.keyError "__MAX_NR_ZONES"))
  | some 0 => (cls, some .mathDomain)
  | some (less + 1) => ({ cls with zonesWidth := kernel.log2 (less + 1) }, none)

/-- `setup_nodes_width`, unless the configuration can be read and has no integer. -/
def setupNodesWidth : PageCall := fun cls =>
  ({ cls with
    nodesWidth := kernel.nodesShift.getD 8
    bitsPerLong := (kernel.unsignedLongSizeof * 8 : Nat) }, none)

end PageKernel

/-- The callbacks. -/
inductive PageCallback where
  | pageType
  | pageflags
  | zoneType
  | memSection
  | nodesWidth
  | vmemmapBase
  | directmapBase
deriving DecidableEq, Repr

namespace PageKernel

variable (kernel : PageKernel)

/-- The function that a callback calls. -/
def callback : PageCallback -> PageCall
  | .pageType => kernel.setupPageType
  | .pageflags => kernel.setupPageflags
  | .zoneType => kernel.setupZoneType
  | .memSection => kernel.setupMemSection
  | .nodesWidth => kernel.setupNodesWidth
  | .vmemmapBase => kernel.setupVmemmapBase
  | .directmapBase => kernel.setupDirectmapBase

/-- The callbacks that are called: those of the two symbols only if the symbols exist. -/
def callbacks : List PageCallback :=
  [.pageType, .pageflags, .zoneType, .memSection, .nodesWidth] ++
    (if kernel.vmemmapBase.isSome then [.vmemmapBase] else []) ++
    (if kernel.pageOffsetBase.isSome then [.directmapBase] else [])

/-- The attributes after the callbacks in an order.  An exception leaves its callback and
not the attributes. -/
def runCallbacks (order : List PageCallback) : PageState :=
  order.foldl (fun cls event => (kernel.callback event cls).1) {}

end PageKernel

/-! ## What each callback contributes -/

/-- What `setup_pageflags_finish` decides: the mask and the two implementations, and whether
it raises an exception. -/
structure FinishResult where
  pgTail : Int
  isTail : TailTest
  compoundHead : HeadLink
  error : Option PageSetupError

/-- The decision for a table of flags and the name of the member for the head page. -/
def finishResult (table : List (String × Nat)) (compoundHeadName : Option String) : FinishResult :=
  match table.lookup "PG_tail" with
  | some tail =>
      ⟨(1 <<< tail : Nat), .flag,
        if compoundHeadName = some "first_page" then .firstPage else .usesLowBit, none⟩
  | none =>
      if compoundHeadName = some "first_page" then
        match table.lookup "PG_compound", table.lookup "PG_reclaim" with
        | none, _ => ⟨-1, .compoundHeadBit, .firstPage, some (.keyError "PG_compound")⟩
        | some _, none => ⟨-1, .compoundHeadBit, .firstPage, some (.keyError "PG_reclaim")⟩
        | some compound, some reclaim =>
            ⟨(1 <<< compound ||| 1 <<< reclaim : Nat), .flagcombo, .firstPage, none⟩
      else ⟨-1, .compoundHeadBit, .usesLowBit, none⟩

/-- `setup_pageflags_finish` on attributes where the mask is not set yet. -/
theorem setupPageflagsFinish_eq (cls : PageState) (unset : cls.pgTail = -1) :
    setupPageflagsFinish cls =
      let result := finishResult cls.pageflags cls.compoundHeadName
      ({ cls with
          setupPageflagsFinishDone := true
          finishRuns := cls.finishRuns + 1
          pgTail := result.pgTail
          isTail := some result.isTail
          compoundHead := some result.compoundHead }, result.error) := by
  simp only [setupPageflagsFinish, finishResult, setupFlagcombo, PageState.mask]
  have known (bit : Nat) : ((1 <<< bit : Nat) : Int) ≠ -1 :=
    fun same => absurd (Int.natCast_nonneg (1 <<< bit)) (by rw [same]; decide)
  by_cases name : cls.compoundHeadName = some "first_page"
  · rcases Option.eq_none_or_eq_some (cls.pageflags.lookup "PG_tail") with tail | ⟨bit, tail⟩
    · rcases Option.eq_none_or_eq_some (cls.pageflags.lookup "PG_compound") with
        compound | ⟨first, compound⟩
      · simp only [tail, name, compound, unset, if_true]
      · rcases Option.eq_none_or_eq_some (cls.pageflags.lookup "PG_reclaim") with
          reclaim | ⟨second, reclaim⟩
        · simp only [tail, name, compound, reclaim, unset, if_true]
        · simp only [tail, name, compound, reclaim, unset, if_true]
    · simp only [tail, name, known, if_true, if_false]
  · rcases Option.eq_none_or_eq_some (cls.pageflags.lookup "PG_tail") with tail | ⟨bit, tail⟩
    · simp only [tail, name, unset, if_false]
    · simp only [tail, name, if_false]

/-- The mask for slab pages, if there is such a flag. -/
def slabMask (table : List (String × Nat)) : Int :=
  match table.lookup "PG_slab" with
  | none => -1
  | some bit => (1 <<< bit : Nat)

/-- The mask for pages on the LRU list.  It is not set without a flag for slab pages. -/
def lruMask (table : List (String × Nat)) : Int :=
  match table.lookup "PG_slab", table.lookup "PG_lru" with
  | some _, some bit => (1 <<< bit : Nat)
  | _, _ => -1

theorem setupMasks_eq (cls : PageState) (unsetSlab : cls.pgSlab = -1) (unsetLru : cls.pgLru = -1) :
    (PageKernel.setupMasks cls).1 =
      { cls with pgSlab := slabMask cls.pageflags, pgLru := lruMask cls.pageflags } := by
  simp only [PageKernel.setupMasks, PageState.mask, slabMask, lruMask]
  rcases Option.eq_none_or_eq_some (cls.pageflags.lookup "PG_slab") with slab | ⟨bit, slab⟩
  · simp only [slab]
    cases cls
    simp_all only
  · rcases Option.eq_none_or_eq_some (cls.pageflags.lookup "PG_lru") with lru | ⟨other, lru⟩
    · simp only [slab, lru, ← unsetLru]
    · simp only [slab, lru]

namespace PageKernel

variable (kernel : PageKernel)

/-- The table of flags. -/
def flagTable : List (String × Nat) :=
  kernel.pageflags.foldl (fun table field => field :: table) []

/-- Each of the three names is found in `struct page`. -/
structure VariantsFound (slabCacheName slabPageName compoundHeadName : String) : Prop where
  slabCache : kernel.findMemberVariant "slab_cache" "lru" = .ok slabCacheName
  slabPage : kernel.findMemberVariant "slab_page" "lru" = .ok slabPageName
  compoundHead : kernel.findMemberVariant "compound_head" "first_page" = .ok compoundHeadName

/-- The width of zone numbers that `setup_zone_type` sets. -/
def zonesWidth : Int :=
  match kernel.maxNrZones with
  | some (less + 1) => kernel.log2 (less + 1)
  | _ => -1

/-- The number of sections for a page size. -/
def sectionsPerRoot (pageSize : Nat) : Int :=
  if kernel.memSectionSizeof = 0 then -1 else (pageSize / kernel.memSectionSizeof : Nat)

/-- The attributes after some callbacks, when the three names are found. -/
def described (slabCacheName slabPageName compoundHeadName : String) (history : List PageCallback) :
    PageState :=
  let typed := PageCallback.pageType ∈ history
  let flagged := PageCallback.pageflags ∈ history
  let large := kernel.powerpc = true ∧ typed
  let result := finishResult kernel.flagTable (some compoundHeadName)
  let masked := flagged ∧ (result.error.isSome -> ¬ Precedes PageCallback.pageType .pageflags history)
  { slabCacheName := if typed then some slabCacheName else none
    slabPageName := if typed then some slabPageName else none
    compoundHeadName := if typed then some compoundHeadName else none
    vmemmapBase :=
      if PageCallback.vmemmapBase ∈ history then kernel.vmemmapBase.getD 0xffffea0000000000
      else 0xffffea0000000000
    vmemmap :=
      if PageCallback.vmemmapBase ∈ history ∧ kernel.vmemmapBase.isSome then kernel.vmemmapBase
      else if typed then some 0xffffea0000000000 else none
    directmapBase :=
      if PageCallback.directmapBase ∈ history ∧ kernel.pageOffsetBase.isSome ∧
          (kernel.powerpc = true -> ¬ Precedes PageCallback.directmapBase .pageType history) then
        kernel.pageOffsetBase.getD 0xffff880000000000
      else if large then 0xc000000000000000 else 0xffff880000000000
    pageflags := if flagged then kernel.flagTable else []
    pgTail := if typed ∧ flagged then result.pgTail else -1
    pgSlab := if masked then slabMask kernel.flagTable else -1
    pgLru := if masked then lruMask kernel.flagTable else -1
    setupPageTypeDone := decide typed
    setupPageflagsDone := decide flagged
    setupPageflagsFinishDone := decide (typed ∧ flagged)
    zonesWidth := if PageCallback.zoneType ∈ history then kernel.zonesWidth else -1
    nodesWidth := if PageCallback.nodesWidth ∈ history then kernel.nodesShift.getD 8 else -1
    bitsPerLong :=
      if PageCallback.nodesWidth ∈ history then (kernel.unsignedLongSizeof * 8 : Nat) else -1
    pageSize := if large then 65536 else 4096
    pageShift := if large then 16 else 12
    sparsemem := decide large
    sectionSizeBits := if large then 24 else -1
    sectionsPerRoot :=
      if PageCallback.memSection ∈ history then
        kernel.sectionsPerRoot (if kernel.powerpc = true ∧ Precedes PageCallback.pageType .memSection history
          then 65536 else 4096)
      else -1
    isTail := if typed ∧ flagged then some result.isTail else none
    compoundHead := if typed ∧ flagged then some result.compoundHead else none
    finishRuns := if typed ∧ flagged then 1 else 0 }

section Steps

variable {kernel} {slabCacheName slabPageName compoundHeadName : String} {history : List PageCallback}

theorem described_nil : kernel.described slabCacheName slabPageName compoundHeadName [] = {} := by
  simp [described]

theorem described_zoneType :
    (kernel.setupZoneType (kernel.described slabCacheName slabPageName compoundHeadName history)).1 =
      kernel.described slabCacheName slabPageName compoundHeadName (history ++ [.zoneType]) := by
  simp only [setupZoneType, described, zonesWidth]
  cases kernel.maxNrZones with
  | none => simp [precedes_concat]
  | some zones =>
      cases zones with
      | zero => simp [precedes_concat]
      | succ less => simp [precedes_concat]

theorem described_nodesWidth :
    (kernel.setupNodesWidth (kernel.described slabCacheName slabPageName compoundHeadName history)).1 =
      kernel.described slabCacheName slabPageName compoundHeadName (history ++ [.nodesWidth]) := by
  simp [setupNodesWidth, described, precedes_concat]

theorem described_memSection (fresh : PageCallback.memSection ∉ history) :
    (kernel.setupMemSection (kernel.described slabCacheName slabPageName compoundHeadName history)).1 =
      kernel.described slabCacheName slabPageName compoundHeadName (history ++ [.memSection]) := by
  have none_before : ¬ Precedes PageCallback.pageType .memSection history := fun before =>
    fresh before.second_mem
  simp only [setupMemSection, described, sectionsPerRoot]
  by_cases empty : kernel.memSectionSizeof = 0
  · simp [precedes_concat, empty, fresh]
  · simp [precedes_concat, empty, none_before]

theorem described_vmemmapBase :
    (kernel.setupVmemmapBase (kernel.described slabCacheName slabPageName compoundHeadName history)).1 =
      kernel.described slabCacheName slabPageName compoundHeadName (history ++ [.vmemmapBase]) := by
  simp only [setupVmemmapBase, described]
  cases kernel.vmemmapBase with
  | none => simp [precedes_concat]
  | some base => simp [precedes_concat]

theorem described_directmapBase (fresh : PageCallback.directmapBase ∉ history) :
    (kernel.setupDirectmapBase (kernel.described slabCacheName slabPageName compoundHeadName history)).1 =
      kernel.described slabCacheName slabPageName compoundHeadName (history ++ [.directmapBase]) := by
  have none_before : ¬ Precedes PageCallback.directmapBase .pageType history := fun before =>
    fresh before.first_mem
  simp only [setupDirectmapBase, described]
  cases kernel.pageOffsetBase with
  | none => simp [precedes_concat]
  | some base => simp [precedes_concat, none_before]

/-- The pointer `vmemmap` is not made again when the symbol has come before. -/
theorem vmemmap_kept (called : Prop) [Decidable called] (symbol : Option Nat) (base : Nat) :
    some ((if called ∧ symbol.isSome = true then symbol else none).getD
        (if called then symbol.getD base else base)) =
      if called ∧ symbol.isSome = true then symbol else some base := by
  cases symbol with
  | none => simp
  | some address =>
      by_cases here : called
      · simp [here]
      · simp [here]

theorem described_pageType (found : kernel.VariantsFound slabCacheName slabPageName compoundHeadName)
    (fresh : PageCallback.pageType ∉ history) :
    (kernel.setupPageType (kernel.described slabCacheName slabPageName compoundHeadName history)).1 =
      kernel.described slabCacheName slabPageName compoundHeadName (history ++ [.pageType]) := by
  have none_before (other : PageCallback) : ¬ Precedes PageCallback.pageType other history :=
    fun before => fresh before.first_mem
  have none_after (other : PageCallback) : ¬ Precedes other PageCallback.pageType history :=
    fun before => fresh before.second_mem
  simp only [setupPageType]
  simp only [found.slabCache, found.slabPage, found.compoundHead]
  simp only [setupPageTypeDone]
  cases powerpc : kernel.powerpc with
  | true =>
      by_cases flagged : PageCallback.pageflags ∈ history
      · rw [if_pos (by simp [described, flagged, fresh]),
          setupPageflagsFinish_eq _ (by simp [described, fresh])]
        simp [described, precedes_concat, powerpc, flagged, fresh, none_before, none_after,
          vmemmap_kept]
        exact fun called _ uncalled => absurd called uncalled
      · rw [if_neg (by simp [described, flagged])]
        simp [described, precedes_concat, powerpc, flagged, fresh, none_before, none_after,
          vmemmap_kept]
        exact fun called _ uncalled => absurd called uncalled
  | false =>
      by_cases flagged : PageCallback.pageflags ∈ history
      · rw [if_pos (by simp [described, flagged, fresh]),
          setupPageflagsFinish_eq _ (by simp [described, fresh])]
        simp [described, precedes_concat, powerpc, flagged, fresh, none_before, none_after,
          vmemmap_kept]
      · rw [if_neg (by simp [described, flagged])]
        simp [described, precedes_concat, powerpc, flagged, fresh, none_before, none_after,
          vmemmap_kept]

theorem described_pageflags (fresh : PageCallback.pageflags ∉ history) :
    (kernel.setupPageflags (kernel.described slabCacheName slabPageName compoundHeadName history)).1 =
      kernel.described slabCacheName slabPageName compoundHeadName (history ++ [.pageflags]) := by
  have none_after (other : PageCallback) : ¬ Precedes other PageCallback.pageflags history :=
    fun before => fresh before.second_mem
  have table : kernel.pageflags.foldl (fun table field => field :: table)
      (kernel.described slabCacheName slabPageName compoundHeadName history).pageflags =
        kernel.flagTable := by
    simp [described, fresh, flagTable]
  unfold setupPageflags
  by_cases typed : PageCallback.pageType ∈ history
  · have name : (kernel.described slabCacheName slabPageName compoundHeadName history).compoundHeadName =
        some compoundHeadName := if_pos typed
    dsimp only
    rw [if_pos (by simp [described, typed, fresh]),
      setupPageflagsFinish_eq _ (by simp [described, fresh])]
    dsimp only
    rw [table, name]
    cases failed : (finishResult kernel.flagTable (some compoundHeadName)).error with
    | none =>
        dsimp only
        rw [setupMasks_eq _ (by simp [described, fresh]) (by simp [described, fresh])]
        simp [described, precedes_concat, typed, fresh, none_after, failed]
    | some error =>
        simp [described, precedes_concat, typed, fresh, none_after, failed]
  · dsimp only
    rw [if_neg (by simp [described, typed]),
      setupMasks_eq _ (by simp [described, fresh]) (by simp [described, fresh]), table]
    simp [described, precedes_concat, typed, fresh, none_after]

/-- The attributes after the callbacks in an order in which none comes twice. -/
theorem runCallbacks_eq (found : kernel.VariantsFound slabCacheName slabPageName compoundHeadName)
    {order : List PageCallback} (once : order.Nodup) :
    kernel.runCallbacks order =
      kernel.described slabCacheName slabPageName compoundHeadName order := by
  have fits (history : List PageCallback) (event : PageCallback) (distinct : (history ++ [event]).Nodup) :
      (kernel.callback event (kernel.described slabCacheName slabPageName compoundHeadName history)).1 =
        kernel.described slabCacheName slabPageName compoundHeadName (history ++ [event]) := by
    have fresh : event ∉ history := fun member =>
      (List.nodup_append.mp distinct).2.2 event member event (List.mem_singleton_self event) rfl
    cases event with
    | pageType => exact described_pageType found fresh
    | pageflags => exact described_pageflags fresh
    | zoneType => exact described_zoneType
    | memSection => exact described_memSection fresh
    | nodesWidth => exact described_nodesWidth
    | vmemmapBase => exact described_vmemmapBase
    | directmapBase => exact described_directmapBase fresh
  have result : order.foldl (fun cls event => (kernel.callback event cls).1)
      (kernel.described slabCacheName slabPageName compoundHeadName []) =
        kernel.described slabCacheName slabPageName compoundHeadName order :=
    foldl_described fits once
  rw [described_nil] at result
  exact result

end Steps

/-! ## Every order -/

/-- Each of the three names is found. -/
def HasVariants : Prop :=
  Exists fun slabCacheName : String => Exists fun slabPageName : String =>
    Exists fun compoundHeadName : String =>
      kernel.VariantsFound slabCacheName slabPageName compoundHeadName

/-- `setup_pageflags_finish` raises an exception: the tail pages of the kernel have two flags,
and one of these is missing. -/
def FinishFails : Prop :=
  kernel.findMemberVariant "compound_head" "first_page" = .ok "first_page" ∧
    kernel.flagTable.lookup "PG_tail" = none ∧
    (kernel.flagTable.lookup "PG_compound" = none ∨ kernel.flagTable.lookup "PG_reclaim" = none)

/-- The attributes that all orders should come to.  The page size is that of the
architecture, and a symbol wins over what the source has for it. -/
def settled : PageState :=
  let compoundHeadName := (kernel.findMemberVariant "compound_head" "first_page").toOption
  let result := finishResult kernel.flagTable compoundHeadName
  let pageSize := if kernel.powerpc then 65536 else 4096
  { slabCacheName := (kernel.findMemberVariant "slab_cache" "lru").toOption
    slabPageName := (kernel.findMemberVariant "slab_page" "lru").toOption
    compoundHeadName := compoundHeadName
    vmemmapBase := kernel.vmemmapBase.getD 0xffffea0000000000
    vmemmap := some (kernel.vmemmapBase.getD 0xffffea0000000000)
    directmapBase := kernel.pageOffsetBase.getD
      (if kernel.powerpc then 0xc000000000000000 else 0xffff880000000000)
    pageflags := kernel.flagTable
    pgTail := result.pgTail
    pgSlab := slabMask kernel.flagTable
    pgLru := lruMask kernel.flagTable
    setupPageTypeDone := true
    setupPageflagsDone := true
    setupPageflagsFinishDone := true
    zonesWidth := kernel.zonesWidth
    nodesWidth := kernel.nodesShift.getD 8
    bitsPerLong := (kernel.unsignedLongSizeof * 8 : Nat)
    pageSize := pageSize
    pageShift := if kernel.powerpc then 16 else 12
    sparsemem := kernel.powerpc
    sectionSizeBits := if kernel.powerpc then 24 else -1
    sectionsPerRoot := kernel.sectionsPerRoot pageSize
    isTail := some result.isTail
    compoundHead := some result.compoundHead
    finishRuns := 1 }

/-- The orders in which every callback finds what it needs. -/
structure RightOrder (order : List PageCallback) : Prop where
  variants : kernel.HasVariants
  sections : kernel.powerpc = true -> 0 < kernel.memSectionSizeof -> kernel.memSectionSizeof ≤ 65536 ->
    Precedes PageCallback.pageType .memSection order
  directmap : kernel.powerpc = true -> forall base, kernel.pageOffsetBase = some base ->
    base ≠ 0xc000000000000000 -> ¬ Precedes PageCallback.directmapBase .pageType order
  masks : kernel.FinishFails -> (kernel.flagTable.lookup "PG_slab").isSome ->
    ¬ Precedes PageCallback.pageType .pageflags order

section Orders

variable {kernel} {order : List PageCallback}

/-- With the wrong page size the number of sections is another one, unless a section does
not fit in either page. -/
theorem sectionsPerRoot_eq_iff :
    kernel.sectionsPerRoot 4096 = kernel.sectionsPerRoot 65536 <->
      ¬ (0 < kernel.memSectionSizeof ∧ kernel.memSectionSizeof ≤ 65536) := by
  simp only [sectionsPerRoot]
  by_cases empty : kernel.memSectionSizeof = 0
  · simp [empty]
  · have positive := Nat.pos_of_ne_zero empty
    rw [if_neg empty, if_neg empty, Int.natCast_inj]
    constructor
    · rintro same ⟨_, fits⟩
      have small := Nat.div_mul_le_self 4096 kernel.memSectionSizeof
      have next : (4096 / kernel.memSectionSizeof + 1) * kernel.memSectionSizeof ≤ 65536 := by
        by_cases none_fits : 4096 < kernel.memSectionSizeof
        · rw [Nat.div_eq_of_lt none_fits]
          omega
        · rw [Nat.add_mul]
          omega
      have more := (Nat.le_div_iff_mul_le positive).mpr next
      omega
    · intro large
      rw [Nat.div_eq_of_lt (by omega), Nat.div_eq_of_lt (by omega)]

theorem finishResult_error_iff {compoundHeadName : String}
    (found : kernel.findMemberVariant "compound_head" "first_page" = .ok compoundHeadName) :
    (finishResult kernel.flagTable (some compoundHeadName)).error.isSome <-> kernel.FinishFails := by
  simp only [FinishFails, finishResult]
  rw [found]
  rcases Option.eq_none_or_eq_some (kernel.flagTable.lookup "PG_tail") with tail | ⟨bit, tail⟩
  · by_cases name : compoundHeadName = "first_page"
    · rcases Option.eq_none_or_eq_some (kernel.flagTable.lookup "PG_compound") with
        compound | ⟨first, compound⟩
      · simp [tail, name, compound]
      · rcases Option.eq_none_or_eq_some (kernel.flagTable.lookup "PG_reclaim") with
          reclaim | ⟨second, reclaim⟩
        · simp [tail, name, compound, reclaim]
        · simp [tail, name, compound, reclaim]
    · simp [tail, name]
  · simp [tail]

theorem setupMasks_frame (cls : PageState) :
    (setupMasks cls).1.setupPageTypeDone = cls.setupPageTypeDone ∧
      (setupMasks cls).1.finishRuns = cls.finishRuns := by
  simp only [setupMasks, PageState.mask]
  rcases Option.eq_none_or_eq_some (cls.pageflags.lookup "PG_slab") with slab | ⟨bit, slab⟩
  · simp only [slab, and_self]
  · rcases Option.eq_none_or_eq_some (cls.pageflags.lookup "PG_lru") with lru | ⟨other, lru⟩
    · simp only [slab, lru, and_self]
    · simp only [slab, lru, and_self]

/-- Without its names `setup_page_type` never comes to its end. -/
theorem finish_never_runs (missing : ¬ kernel.HasVariants) (order : List PageCallback) :
    (kernel.runCallbacks order).finishRuns = 0 := by
  have kept (cls : PageState) (event : PageCallback)
      (before : cls.setupPageTypeDone = false ∧ cls.finishRuns = 0) :
      (kernel.callback event cls).1.setupPageTypeDone = false ∧
        (kernel.callback event cls).1.finishRuns = 0 := by
    rcases before with ⟨undone, unrun⟩
    cases event with
    | pageType =>
        unfold callback setupPageType
        cases slabCache : kernel.findMemberVariant "slab_cache" "lru" with
        | error error => split <;> exact ⟨undone, unrun⟩
        | ok slabCacheName =>
            cases slabPage : kernel.findMemberVariant "slab_page" "lru" with
            | error error => split <;> exact ⟨undone, unrun⟩
            | ok slabPageName =>
                cases compoundHead : kernel.findMemberVariant "compound_head" "first_page" with
                | error error => split <;> exact ⟨undone, unrun⟩
                | ok compoundHeadName =>
                    exact absurd ⟨_, _, _, slabCache, slabPage, compoundHead⟩ missing
    | pageflags =>
        unfold callback setupPageflags
        dsimp only
        rw [if_neg fun both => Bool.noConfusion (undone.symm.trans both.1)]
        rw [(setupMasks_frame _).1, (setupMasks_frame _).2]
        exact ⟨undone, unrun⟩
    | zoneType =>
        simp only [callback, setupZoneType]
        split <;> exact ⟨undone, unrun⟩
    | memSection =>
        simp only [callback, setupMemSection]
        split <;> exact ⟨undone, unrun⟩
    | nodesWidth => exact ⟨undone, unrun⟩
    | vmemmapBase =>
        simp only [callback, setupVmemmapBase]
        split <;> exact ⟨undone, unrun⟩
    | directmapBase =>
        simp only [callback, setupDirectmapBase]
        split <;> exact ⟨undone, unrun⟩
  have all (order : List PageCallback) (cls : PageState)
      (before : cls.setupPageTypeDone = false ∧ cls.finishRuns = 0) :
      (order.foldl (fun cls event => (kernel.callback event cls).1) cls).finishRuns = 0 := by
    induction order generalizing cls with
    | nil => exact before.2
    | cons event rest inductionHypothesis => exact inductionHypothesis _ (kept cls event before)
  exact all order {} ⟨rfl, rfl⟩

theorem sections_right_iff :
    kernel.sectionsPerRoot (if kernel.powerpc = true ∧ Precedes PageCallback.pageType .memSection order
        then 65536 else 4096) =
      kernel.sectionsPerRoot (if kernel.powerpc = true then 65536 else 4096) <->
    (kernel.powerpc = true -> 0 < kernel.memSectionSizeof -> kernel.memSectionSizeof ≤ 65536 ->
      Precedes PageCallback.pageType .memSection order) := by
  cases kernel.powerpc with
  | false => simp
  | true =>
      by_cases first : Precedes PageCallback.pageType .memSection order
      · simp [first]
      · simp [first, sectionsPerRoot_eq_iff]

theorem directmap_right_iff :
    (if kernel.pageOffsetBase.isSome = true ∧
          (kernel.powerpc = true -> ¬ Precedes PageCallback.directmapBase .pageType order) then
        kernel.pageOffsetBase.getD 0xffff880000000000
      else if kernel.powerpc = true then 0xc000000000000000 else 0xffff880000000000) =
      kernel.pageOffsetBase.getD (if kernel.powerpc = true then 0xc000000000000000 else 0xffff880000000000) <->
    (kernel.powerpc = true -> forall base, kernel.pageOffsetBase = some base -> base ≠ 0xc000000000000000 ->
      ¬ Precedes PageCallback.directmapBase .pageType order) := by
  cases kernel.pageOffsetBase with
  | none => simp
  | some base =>
      cases kernel.powerpc with
      | false => simp
      | true =>
          by_cases early : Precedes PageCallback.directmapBase .pageType order
          · simp [early, eq_comm]
          · simp [early]

theorem masks_right_iff {failed : Prop} [Decidable failed] {table : List (String × Nat)} :
    ((if failed -> ¬ Precedes PageCallback.pageType .pageflags order then slabMask table else -1) =
        slabMask table ∧
      (if failed -> ¬ Precedes PageCallback.pageType .pageflags order then lruMask table else -1) =
        lruMask table) <->
    (failed -> (table.lookup "PG_slab").isSome -> ¬ Precedes PageCallback.pageType .pageflags order) := by
  simp only [slabMask, lruMask]
  by_cases late : failed -> ¬ Precedes PageCallback.pageType .pageflags order
  · simp only [if_pos late, and_self, true_iff]
    exact fun fails _ => late fails
  · simp only [if_neg late]
    rcases Option.eq_none_or_eq_some (table.lookup "PG_slab") with slab | ⟨bit, slab⟩
    · simp [slab]
    · have known : (-1 : Int) ≠ ((1 <<< bit : Nat) : Int) :=
        fun same => absurd (Int.natCast_nonneg (1 <<< bit)) (by rw [← same]; decide)
      simp only [slab, known, false_and, Option.isSome_some, forall_true_left, false_iff]
      exact late

/-- The history of an order agrees with the settled attributes if none of the three things
that can go wrong does. -/
theorem described_eq_settled_iff {slabCacheName slabPageName compoundHeadName : String}
    (found : kernel.VariantsFound slabCacheName slabPageName compoundHeadName)
    (each : order.Perm kernel.callbacks) :
    kernel.described slabCacheName slabPageName compoundHeadName order = kernel.settled <->
      kernel.RightOrder order := by
  have typed : PageCallback.pageType ∈ order := each.mem_iff.mpr (by simp [callbacks])
  have flagged : PageCallback.pageflags ∈ order := each.mem_iff.mpr (by simp [callbacks])
  have zones : PageCallback.zoneType ∈ order := each.mem_iff.mpr (by simp [callbacks])
  have sections : PageCallback.memSection ∈ order := each.mem_iff.mpr (by simp [callbacks])
  have nodes : PageCallback.nodesWidth ∈ order := each.mem_iff.mpr (by simp [callbacks])
  have vmemmap : PageCallback.vmemmapBase ∈ order <-> kernel.vmemmapBase.isSome :=
    each.mem_iff.trans (by simp [callbacks])
  have directmap : PageCallback.directmapBase ∈ order <-> kernel.pageOffsetBase.isSome :=
    each.mem_iff.trans (by simp [callbacks])
  simp only [described, settled]
  simp only [typed, flagged, zones, sections, nodes, vmemmap, directmap, found.slabCache, found.slabPage,
    found.compoundHead, Except.toOption, if_true, and_true, true_and, and_self_left, and_self,
    decide_true, Bool.decide_eq_true, PageState.mk.injEq]
  have base : (if kernel.vmemmapBase.isSome = true then kernel.vmemmapBase.getD 0xffffea0000000000
      else 0xffffea0000000000) = kernel.vmemmapBase.getD 0xffffea0000000000 := by
    cases kernel.vmemmapBase with
    | none => rfl
    | some base => rfl
  have pointer : (if kernel.vmemmapBase.isSome = true
      then kernel.vmemmapBase else some 0xffffea0000000000) =
        some (kernel.vmemmapBase.getD 0xffffea0000000000) := by
    cases kernel.vmemmapBase with
    | none => rfl
    | some base => rfl
  constructor
  · rintro ⟨-, -, directmap, slab, lru, sections⟩
    refine ⟨⟨_, _, _, found⟩, sections_right_iff.mp sections, directmap_right_iff.mp directmap, ?_⟩
    intro fails
    exact masks_right_iff.mp ⟨slab, lru⟩ ((finishResult_error_iff found.compoundHead).mpr fails)
  · rintro ⟨_, sections, directmap, masks⟩
    have both := masks_right_iff.mpr fun failed : (finishResult kernel.flagTable
      (some compoundHeadName)).error.isSome = true =>
        masks ((finishResult_error_iff found.compoundHead).mp failed)
    exact ⟨base, pointer, directmap_right_iff.mpr directmap, both.1, both.2,
      sections_right_iff.mpr sections⟩

theorem callbacks_nodup (kernel : PageKernel) : kernel.callbacks.Nodup := by
  simp only [callbacks]
  cases kernel.vmemmapBase.isSome with
  | true =>
      cases kernel.pageOffsetBase.isSome with
      | true => decide
      | false => decide
  | false =>
      cases kernel.pageOffsetBase.isSome with
      | true => decide
      | false => decide

end Orders

end PageKernel

/-- In which orders the callbacks come to the settled attributes, where
`setup_pageflags_finish` has run once. -/
theorem pageSetup_settles_iff (kernel : PageKernel) {order : List PageCallback}
    (each : order.Perm kernel.callbacks) :
    kernel.runCallbacks order = kernel.settled <-> kernel.RightOrder order := by
  by_cases variants : kernel.HasVariants
  · rcases variants with ⟨slabCacheName, slabPageName, compoundHeadName, found⟩
    rw [PageKernel.runCallbacks_eq found (each.nodup_iff.mpr kernel.callbacks_nodup)]
    exact PageKernel.described_eq_settled_iff found each
  · constructor
    · intro same
      have never := PageKernel.finish_never_runs variants order
      rw [same] at never
      cases never
    · exact fun right => absurd right.variants variants

/-- A kernel on powerpc without the two symbols. -/
def powerpcKernel : PageKernel where
  powerpc := true
  pageMember := fun name => name ∈ ["lru", "slab_cache", "compound_head"]
  pageflags := [("PG_lru", 5), ("PG_slab", 9)]
  maxNrZones := some 4
  memSectionSizeof := 16
  nodesShift := some 8
  unsignedLongSizeof := 8
  vmemmapBase := none
  pageOffsetBase := none
  log2 := fun zones => Nat.log2 (2 * zones - 1)

theorem pageSetup_settles_iff_powerpc :
    powerpcKernel.runCallbacks [.pageType, .memSection, .pageflags, .nodesWidth, .zoneType] =
        powerpcKernel.settled <->
      powerpcKernel.RightOrder [.pageType, .memSection, .pageflags, .nodesWidth, .zoneType] :=
  pageSetup_settles_iff powerpcKernel (by decide)

/-- With `struct mem_section` as the first type, the number of its items in a root is that
of a small page. -/
theorem pageSetup_depends_on_order :
    [.memSection, .pageType, .pageflags, .nodesWidth, .zoneType].Perm powerpcKernel.callbacks ∧
      [.pageType, .memSection, .pageflags, .nodesWidth, .zoneType].Perm powerpcKernel.callbacks ∧
      (powerpcKernel.runCallbacks
        [.memSection, .pageType, .pageflags, .nodesWidth, .zoneType]).sectionsPerRoot = 256 ∧
      (powerpcKernel.runCallbacks
        [.pageType, .memSection, .pageflags, .nodesWidth, .zoneType]).sectionsPerRoot = 4096 :=
  ⟨by decide, by decide, by decide, by decide⟩

end Types
end CrashPython

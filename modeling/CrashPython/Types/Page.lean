import Mathlib.Data.Int.Bitwise

namespace CrashPython
namespace Types

/-!
# The page wrapper of `crash/types/page.py`

A `struct page` is known by its address, and `PageMemory` says what gdb finds
in each of its fields.  `Page` is the wrapper of the source: it fetches `flags`
when it is made, and the field `flagsRead` keeps that fact.  Two wrappers of
one address therefore agree in everything that is asked of them, which is what
a check that skips a page it has just seen relies on.

Page frame numbers are Python integers and can be negative.  A pointer is what
gdb makes of an integer, its residue modulo the size of the address space.
-/

/-- The two exceptions of gdb for a read that fails. -/
inductive GdbError where
  | notAvailable
  | memoryError
deriving DecidableEq, Repr

/-- The fields of a `struct page` this module reads. -/
structure PageStruct where
  flags : Except GdbError Nat
  compoundHead : Except GdbError Nat := .error .memoryError
  firstPage : Except GdbError Nat := .error .memoryError
  lruNext : Except GdbError Nat := .error .memoryError
  lruPrev : Except GdbError Nat := .error .memoryError
  slabCache : Except GdbError Nat := .error .memoryError
  slabPage : Except GdbError Nat := .error .memoryError

/-- What gdb finds at the address of a `struct page`. -/
abbrev PageMemory : Type :=
  Nat -> PageStruct

/-- The three implementations of `_is_tail`. -/
inductive TailTest where
  | flag
  | flagcombo
  | compoundHeadBit
deriving DecidableEq, Repr

/-- The two implementations of `_compound_head`. -/
inductive HeadLink where
  | firstPage
  | usesLowBit
deriving DecidableEq, Repr

/-- The section table of a kernel with `sparsemem`. -/
structure SparseMem where
  sectionSizeBits : Nat
  sectionsPerRoot : Nat
  sectionMemMap : Int -> Int -> Except GdbError Nat

/-- The attributes of class `Page` once its callbacks have run.  The two flags
say whether a slab pointer lives in the `lru` links. -/
structure PageClass where
  pageShift : Nat := 12
  vmemmapBase : Nat := 0xffffea0000000000
  directmapBase : Nat := 0xffff880000000000
  pageSizeof : Nat := 64
  sparsemem : Option SparseMem := none
  bitsPerLong : Nat := 64
  nodesWidth : Nat := 8
  pgSlab : Nat
  pgTail : Nat := 0
  isTail : TailTest := .compoundHeadBit
  compoundHead : HeadLink := .usesLowBit
  slabCacheInLru : Bool := false
  slabPageInLru : Bool := false

/-- The address gdb uses for a Python integer. -/
def pointerOf (value : Int) : Nat :=
  (value % 2 ^ 64).toNat

/-- The wrapper: the flags are those at its address. -/
structure Page (memory : PageMemory) where
  address : Nat
  pfn : Int
  flags : Nat
  flagsRead : (memory address).flags = .ok flags

namespace PageClass

variable (pageClass : PageClass)

/-- `PAGE_SIZE`. -/
def pageSize : Nat :=
  2 ^ pageClass.pageShift

/-- The class method `pfn_to_page`, as the address of the `struct page`. -/
def structPageOfPfn (pfn : Int) : Except GdbError Nat :=
  match pageClass.sparsemem with
  | none => .ok (pointerOf (pageClass.vmemmapBase + pfn * pageClass.pageSizeof))
  | some sparse =>
      let sectionNr := pfn >>> (sparse.sectionSizeBits - pageClass.pageShift)
      let rootIdx := sectionNr / sparse.sectionsPerRoot
      let offset := Int.land sectionNr (sparse.sectionsPerRoot - 1)
      match sparse.sectionMemMap rootIdx offset with
      | .error error => .error error
      | .ok sectionMemMap =>
          .ok (pointerOf ((sectionMemMap - sectionMemMap % 4 : Nat) + pfn * pageClass.pageSizeof))

/-- The page frame number of a `struct page` address. -/
def pfnOf (address : Nat) : Int :=
  (address - pageClass.vmemmapBase : Int) / pageClass.pageSizeof

/-- `page_addr`. -/
def pageAddr (address : Nat) : Int :=
  pageClass.directmapBase + pageClass.pfnOf address * pageClass.pageSize

end PageClass

namespace Page

variable {memory : PageMemory}

/-- The constructor of `Page`. -/
def make (memory : PageMemory) (address : Nat) (pfn : Int) : Except GdbError (Page memory) :=
  match found : (memory address).flags with
  | .error error => .error error
  | .ok flags => .ok ⟨address, pfn, flags, found⟩

variable (pageClass : PageClass)

/-- `from_page_addr`, and with it `from_obj` and `page_from_gdb_obj`. -/
def fromPageAddr (memory : PageMemory) (address : Nat) : Except GdbError (Page memory) :=
  make memory address (pageClass.pfnOf address)

/-- The module function `pfn_to_page`. -/
def pfnToPage (memory : PageMemory) (pfn : Int) : Except GdbError (Page memory) :=
  match pageClass.structPageOfPfn pfn with
  | .error error => .error error
  | .ok address => make memory address pfn

/-- `page_from_addr`. -/
def fromAddr (memory : PageMemory) (address : Nat) : Except GdbError (Page memory) :=
  pfnToPage pageClass memory ((address - pageClass.directmapBase : Int) / pageClass.pageSize)

variable (page : Page memory)

/-- `is_tail`, in the implementation that was selected. -/
def isTail : Except GdbError Bool :=
  match pageClass.isTail with
  | .flag => .ok (page.flags &&& pageClass.pgTail != 0)
  | .flagcombo => .ok (page.flags &&& pageClass.pgTail == pageClass.pgTail)
  | .compoundHeadBit => (memory page.address).compoundHead.map fun link => link % 2 == 1

/-- The address of the head page of a tail page. -/
def compoundHeadAddress : Except GdbError Nat :=
  match pageClass.compoundHead with
  | .firstPage => (memory page.address).firstPage
  | .usesLowBit => (memory page.address).compoundHead.map fun link => pointerOf (link - 1)

/-- `compound_head`. -/
def compoundHead : Except GdbError (Page memory) :=
  match page.isTail pageClass with
  | .error error => .error error
  | .ok false => .ok page
  | .ok true =>
      match page.compoundHeadAddress pageClass with
      | .error error => .error error
      | .ok address => fromPageAddr pageClass memory address

/-- `is_slab`. -/
def isSlab : Bool :=
  page.flags &&& pageClass.pgSlab != 0

/-- `get_nid`. -/
def getNid : Nat :=
  page.flags >>> (pageClass.bitsPerLong - pageClass.nodesWidth)

/-- `get_slab_cache`, fetched. -/
def getSlabCache : Except GdbError Nat :=
  if pageClass.slabCacheInLru then (memory page.address).lruNext
  else (memory page.address).slabCache

/-- `get_slab_page`, fetched. -/
def getSlabPage : Except GdbError Nat :=
  if pageClass.slabPageInLru then (memory page.address).lruPrev
  else (memory page.address).slabPage

/-- The page of an object: the head of the page its address lies in. -/
def headOfAddr (memory : PageMemory) (address : Nat) : Except GdbError (Page memory) :=
  match fromAddr pageClass memory address with
  | .error error => .error error
  | .ok page => page.compoundHead pageClass

variable {page}

/-- Two wrappers of one address hold the same flags. -/
theorem flags_eq_of_address {other : Page memory} (same : page.address = other.address) :
    page.flags = other.flags := by
  have here := page.flagsRead
  rw [same, other.flagsRead] at here
  exact (Except.ok.inj here).symm

/-- Two wrappers of one address are tail pages alike. -/
theorem isTail_eq_of_address {other : Page memory} (same : page.address = other.address) :
    page.isTail pageClass = other.isTail pageClass := by
  simp only [isTail]
  rw [flags_eq_of_address same, same]

/-- Two wrappers of one address link to the same head page. -/
theorem compoundHeadAddress_eq_of_address {other : Page memory}
    (same : page.address = other.address) :
    page.compoundHeadAddress pageClass = other.compoundHeadAddress pageClass := by
  simp only [compoundHeadAddress]
  rw [same]

variable (page)

/-- What a checker asks of the page of an object: its node, that it is a slab
page, and where its two slab pointers lead. -/
structure View where
  nid : Nat
  isSlab : Bool
  slabCache : Except GdbError Nat
  slabPage : Except GdbError Nat

/-- The answers of a page. -/
def view : View :=
  ⟨page.getNid pageClass, page.isSlab pageClass, page.getSlabCache pageClass,
    page.getSlabPage pageClass⟩

/-- Wrappers of one address give the same answers. -/
theorem view_eq_of_address {page other : Page memory} (same : page.address = other.address) :
    page.view pageClass = other.view pageClass := by
  simp only [view, getNid, isSlab, getSlabCache, getSlabPage]
  rw [flags_eq_of_address same, same]

end Page
end Types
end CrashPython

import CrashPython.Types.Page
import Mathlib.Tactic.Ring

namespace CrashPython
namespace Types

/-!
# Page frame numbers, struct pages and addresses

Four functions of `crash/types/page.py` convert between page frame numbers, the
addresses of their struct pages and the addresses in the direct mapping.
`pfn_to_page` knows both memory models of the source.  With `vmemmap` all struct pages
are in one array.  With `sparsemem` each section has an array of its own, and the
section table says where it is.

The way back knows only the one array.  It agrees with the way there just for those
sections whose array happens to lie at its place in `vmemmap`.
-/

theorem pointerOf_of_lt {value : Int} (nonneg : 0 ≤ value) (small : value < 2 ^ 64) :
    pointerOf value = value.toNat := by
  simp only [pointerOf]
  rw [Int.emod_eq_of_lt nonneg small]

theorem pointerOf_cast (value : Int) : (pointerOf value : Int) = value % 2 ^ 64 := by
  simp only [pointerOf]
  exact Int.toNat_of_nonneg (Int.emod_nonneg _ (by decide))

namespace PageClass

variable (pageClass : PageClass)

/-- The number of the section that a page frame is in. -/
def sectionOf (sparse : SparseMem) (pfn : Int) : Int :=
  pfn >>> (sparse.sectionSizeBits - pageClass.pageShift)

/-- The first page frame of the section that a page frame is in. -/
def sectionStart (sparse : SparseMem) (pfn : Int) : Int :=
  pageClass.sectionOf sparse pfn <<< (sparse.sectionSizeBits - pageClass.pageShift)

/-- Where the struct page of a page frame is, when each section has its array of struct
pages at the given address. -/
def structPageAt (pageArray : Int -> Nat) (pfn : Int) : Int :=
  match pageClass.sparsemem with
  | none => pageClass.vmemmapBase + pfn * pageClass.pageSizeof
  | some sparse =>
      pageArray (pageClass.sectionOf sparse pfn) +
        (pfn - pageClass.sectionStart sparse pfn) * pageClass.pageSizeof

/-- A page frame with a struct page.  In the section table `section_mem_map`, without its
two lowest bits, is the array of the section less the size of all struct pages before. -/
structure ValidPfn (memory : PageMemory) (pageArray : Int -> Nat) (pfn : Int) : Prop where
  pfn_nonneg : 0 ≤ pfn
  sizeof_pos : 0 < pageClass.pageSizeof
  address_nonneg : 0 ≤ pageClass.structPageAt pageArray pfn
  address_small : pageClass.structPageAt pageArray pfn < 2 ^ 64
  readable : Exists fun flags : Nat =>
    (memory (pageClass.structPageAt pageArray pfn).toNat).flags = .ok flags
  inTable : forall sparse, pageClass.sparsemem = some sparse ->
    Exists fun sectionMemMap : Nat =>
      sparse.sectionMemMap (pageClass.sectionOf sparse pfn / sparse.sectionsPerRoot)
        (Int.land (pageClass.sectionOf sparse pfn) (sparse.sectionsPerRoot - 1)) = .ok sectionMemMap ∧
      sectionMemMap - sectionMemMap % 4 =
        pointerOf (pageArray (pageClass.sectionOf sparse pfn) -
          pageClass.sectionStart sparse pfn * pageClass.pageSizeof)

/-- The conversions are inverse to each other at a page frame. -/
def Inverse (memory : PageMemory) (pfn : Int) : Prop :=
  Exists fun address : Nat => pageClass.structPageOfPfn pfn = .ok address ∧
    (Exists fun page : Page memory =>
      Page.fromPageAddr pageClass memory address = .ok page ∧ page.pfn = pfn) ∧
    pageClass.pageAddr address = pageClass.directmapBase + pfn * pageClass.pageSize ∧
    forall addr : Nat, pageClass.pageAddr address ≤ addr ->
      (addr : Int) < pageClass.pageAddr address + pageClass.pageSize ->
        Exists fun page : Page memory => Page.fromAddr pageClass memory addr = .ok page ∧
          page.address = address ∧ page.pfn = pfn

/-- The struct pages of the page frame's section lie where they would be in `vmemmap`,
up to less than one of them. -/
def AtVmemmap (pageArray : Int -> Nat) (pfn : Int) : Prop :=
  match pageClass.sparsemem with
  | none => True
  | some sparse =>
      pageClass.vmemmapBase + pageClass.sectionStart sparse pfn * pageClass.pageSizeof ≤
          (pageArray (pageClass.sectionOf sparse pfn) : Int) ∧
        (pageArray (pageClass.sectionOf sparse pfn) : Int) <
          pageClass.vmemmapBase + (pageClass.sectionStart sparse pfn + 1) * pageClass.pageSizeof

variable {pageClass} {memory : PageMemory} {pageArray : Int -> Nat} {pfn : Int}

/-- `pfn_to_page` finds the struct page in both memory models. -/
theorem structPageOfPfn_valid (valid : pageClass.ValidPfn memory pageArray pfn) :
    pageClass.structPageOfPfn pfn = .ok (pageClass.structPageAt pageArray pfn).toNat := by
  have nonneg := valid.address_nonneg
  have small := valid.address_small
  simp only [structPageOfPfn]
  simp only [structPageAt] at nonneg small ⊢
  cases model : pageClass.sparsemem with
  | none =>
      rw [model] at nonneg small
      exact congrArg Except.ok (pointerOf_of_lt nonneg small)
  | some sparse =>
      rw [model] at nonneg small
      rcases valid.inTable sparse model with ⟨sectionMemMap, read, found⟩
      simp only [sectionOf] at read
      simp only [read]
      have sum : (pageArray (pageClass.sectionOf sparse pfn) -
            pageClass.sectionStart sparse pfn * pageClass.pageSizeof) + pfn * pageClass.pageSizeof =
          (pageArray (pageClass.sectionOf sparse pfn) : Int) +
            (pfn - pageClass.sectionStart sparse pfn) * pageClass.pageSizeof := by
        ring
      rw [found, pointerOf_cast]
      refine congrArg Except.ok (Eq.trans ?_ (pointerOf_of_lt nonneg small))
      simp only [pointerOf]
      rw [Int.emod_add_emod, sum]

/-- The way back gives the page frame exactly if its struct page lies at its place in
`vmemmap`. -/
theorem pfnOf_valid (valid : pageClass.ValidPfn memory pageArray pfn) :
    pageClass.pfnOf (pageClass.structPageAt pageArray pfn).toNat = pfn <->
      pageClass.AtVmemmap pageArray pfn := by
  have positive : (0 : Int) < pageClass.pageSizeof := by exact_mod_cast valid.sizeof_pos
  simp only [pfnOf]
  rw [Int.toNat_of_nonneg valid.address_nonneg, Int.ediv_eq_iff_of_pos positive]
  simp only [structPageAt, AtVmemmap]
  cases pageClass.sparsemem with
  | none =>
      dsimp only
      constructor
      · intro _
        trivial
      · intro _
        omega
  | some sparse =>
      dsimp only
      rw [Int.sub_mul, Int.add_mul, Int.one_mul]
      omega

/-- The wrapper of a struct page that can be read. -/
theorem make_readable {address flags : Nat} (read : (memory address).flags = .ok flags) (pfn : Int) :
    Exists fun page : Page memory =>
      Page.make memory address pfn = .ok page ∧ page.address = address ∧ page.pfn = pfn := by
  simp only [Page.make]
  split
  · next error failed =>
      rw [read] at failed
      cases failed
  · next flags found => exact ⟨_, rfl, rfl, rfl⟩

/-- An address in the direct mapping of a page belongs to its page frame. -/
theorem fromAddr_of_between {addr : Int}
    (low : pageClass.directmapBase + pfn * pageClass.pageSize ≤ addr)
    (high : addr < pageClass.directmapBase + pfn * pageClass.pageSize + pageClass.pageSize) :
    (addr - pageClass.directmapBase) / pageClass.pageSize = pfn := by
  have positive : (0 : Int) < pageClass.pageSize := by
    exact_mod_cast Nat.two_pow_pos pageClass.pageShift
  rw [Int.ediv_eq_iff_of_pos positive]
  omega

end PageClass

/-- Where the four conversions are inverse to each other: always with `vmemmap`, and with
`sparsemem` at the page frames whose section has its struct pages at their place in
`vmemmap`. -/
theorem conversions_inverse_iff {pageClass : PageClass} {memory : PageMemory}
    {pageArray : Int -> Nat} {pfn : Int} (valid : pageClass.ValidPfn memory pageArray pfn) :
    pageClass.Inverse memory pfn <-> pageClass.AtVmemmap pageArray pfn := by
  have there := PageClass.structPageOfPfn_valid valid
  rcases valid.readable with ⟨flags, read⟩
  rw [← PageClass.pfnOf_valid valid]
  generalize (pageClass.structPageAt pageArray pfn).toNat = address at there read
  constructor
  · rintro ⟨other, found, ⟨page, wrapped, number⟩, _⟩
    rw [there] at found
    cases found
    rcases PageClass.make_readable read (pageClass.pfnOf address) with ⟨made, wraps, _, back⟩
    rw [show Page.fromPageAddr pageClass memory address = .ok made from wraps] at wrapped
    cases wrapped
    exact back.symm.trans number
  · intro back
    have start : pageClass.pageAddr address = pageClass.directmapBase + pfn * pageClass.pageSize := by
      simp only [PageClass.pageAddr]
      rw [back]
    refine ⟨address, there, ?_, start, ?_⟩
    · rcases PageClass.make_readable read (pageClass.pfnOf address) with ⟨made, wraps, _, number⟩
      exact ⟨made, wraps, number.trans back⟩
    · intro addr low high
      rw [start] at low high
      have number := PageClass.fromAddr_of_between low high
      rcases PageClass.make_readable read pfn with ⟨made, wraps, same, numbered⟩
      refine ⟨made, ?_, same, numbered⟩
      simp only [Page.fromAddr, Page.pfnToPage]
      rw [number, there]
      exact wraps

/-- A kernel with `vmemmap` and the constants of the source. -/
def vmemmapClass : PageClass := { pgSlab := 128 }

/-- The class on ppc64, where sections have 256 page frames of 64k, and where the first
section has its struct pages at the given address. -/
def sparsememClass (pageArray : Nat) : PageClass where
  pageShift := 16
  directmapBase := 0xc000000000000000
  sparsemem := some ⟨24, 4096, fun _ _ => .ok (pageArray + 3)⟩
  pgSlab := 128

/-- All struct pages can be read. -/
def flaggedPages : PageMemory :=
  fun _ => { flags := .ok 0 }

theorem conversions_inverse_iff_thirdPage :
    vmemmapClass.Inverse flaggedPages 3 <-> vmemmapClass.AtVmemmap (fun _ => 0) 3 :=
  conversions_inverse_iff
    { pfn_nonneg := by decide
      sizeof_pos := by decide
      address_nonneg := by decide
      address_small := by decide
      readable := ⟨0, rfl⟩
      inTable := fun _ impossible => by cases impossible }

theorem sparsememClass_valid :
    (sparsememClass 0xc000000010000000).ValidPfn flaggedPages (fun _ => 0xc000000010000000) 3 where
  pfn_nonneg := by decide
  sizeof_pos := by decide
  address_nonneg := by decide
  address_small := by decide
  readable := ⟨0, rfl⟩
  inTable := by
    rintro sparse ⟨⟩
    exact ⟨0xc000000010000003, rfl, by decide⟩

/-- On ppc64 the struct pages of the first section lie in the direct mapping.  The struct
page of page frame 3 is found, and the way back gives another number. -/
theorem conversions_not_inverse_sparsemem :
    (sparsememClass 0xc000000010000000).ValidPfn flaggedPages (fun _ => 0xc000000010000000) 3 ∧
      (sparsememClass 0xc000000010000000).structPageOfPfn 3 = .ok 0xc0000000100000c0 ∧
      (sparsememClass 0xc000000010000000).pfnOf 0xc0000000100000c0 ≠ 3 ∧
      ¬ (sparsememClass 0xc000000010000000).Inverse flaggedPages 3 := by
  have found : (sparsememClass 0xc000000010000000).structPageOfPfn 3 = .ok 0xc0000000100000c0 := by
    decide
  have other : (sparsememClass 0xc000000010000000).pfnOf 0xc0000000100000c0 ≠ 3 := by decide
  refine ⟨sparsememClass_valid, found, other, ?_⟩
  rintro ⟨address, there, ⟨page, wrapped, number⟩, _⟩
  rw [found] at there
  cases there
  cases wrapped
  exact other number

end Types
end CrashPython

import CrashPython.Types.PageConversions
import Mathlib.Data.List.Basic

namespace CrashPython
namespace Types

/-!
# All pages, and the page of an address

Two generators of `crash/types/page.py` go through the page frame numbers below `max_pfn`
and skip those whose struct page cannot be read.  `for_each_page` makes a `Page` of each.
`for_each_page_flag` first looks at the flags and makes a `Page` only of those that have
one of the given flags.  The values of gdb are lazy: an error may come from the section
table, from the flags, or from the constructor of `Page`, and each of these is in a `try`
statement that goes on with the next page frame number.

`safe_page_from_page_addr` decides whether an address is that of a struct page.  It has a
boundary of its own, and it takes the address as it is for that of the struct page.
-/

namespace Page

variable (pageClass : PageClass) (memory : PageMemory)

/-- `for_each_struct_page_pfn`.  An error of the section table skips one page frame. -/
def forEachStructPagePfn (maxPfn : Int) : List (Nat × Int) :=
  (List.range maxPfn.toNat).filterMap fun pfn : Nat =>
    match pageClass.structPageOfPfn pfn with
    | .error _ => none
    | .ok structPage => some (structPage, (pfn : Int))

/-- `for_each_page`. -/
def forEachPage (maxPfn : Int) : List (Page memory) :=
  (List.range maxPfn.toNat).filterMap fun pfn : Nat =>
    match pfnToPage pageClass memory pfn with
    | .error _ => none
    | .ok page => some page

/-- The body of the loop of `for_each_page_flag`.  The mask is a word like the flags. -/
def flaggedPage (flag : BitVec 64) (structPage : Nat) (pfn : Int) :
    Except GdbError (Option (Page memory)) := do
  let flags ← (memory structPage).flags
  if flags &&& flag.toNat = 0 then return none
  let page ← make memory structPage pfn
  return some page

/-- `for_each_page_flag`. -/
def forEachPageFlag (maxPfn : Int) (flag : BitVec 64) : List (Page memory) :=
  (forEachStructPagePfn pageClass maxPfn).filterMap fun (structPage, pfn) =>
    match flaggedPage memory flag structPage pfn with
    | .error _ => none
    | .ok page => page

/-- The page has a flag in common with the mask. -/
def hasFlag {memory : PageMemory} (flag : BitVec 64) (page : Page memory) : Bool :=
  decide (page.flags &&& flag.toNat ≠ 0)

variable {pageClass memory}

/-- What the constructor makes, it makes of the flags at the address. -/
theorem make_eq_ok {address : Nat} {pfn : Int} {page : Page memory}
    (made : make memory address pfn = .ok page) :
    page.address = address ∧ page.pfn = pfn ∧ (memory address).flags = .ok page.flags := by
  simp only [make] at made
  split at made
  · cases made
  · next flags found =>
      cases made
      exact ⟨rfl, rfl, found⟩

/-- The constructor fails just as the flags do. -/
theorem make_eq_error {address : Nat} {pfn : Int} {error : GdbError}
    (failed : make memory address pfn = .error error) : (memory address).flags = .error error := by
  simp only [make] at failed
  split at failed
  · next other found =>
      cases failed
      exact found
  · cases failed

/-- One iteration of `for_each_page_flag` keeps the page that `for_each_page` makes, if it
has a flag of the mask.  Where either of the two reads fails, so does the constructor. -/
theorem flaggedPage_eq (flag : BitVec 64) (structPage : Nat) (pfn : Int) :
    flaggedPage memory flag structPage pfn =
      (make memory structPage pfn).map fun page => Option.guard (hasFlag flag) page := by
  simp only [flaggedPage]
  cases made : make memory structPage pfn with
  | error error =>
      rw [make_eq_error made]
      rfl
  | ok page =>
      rw [(make_eq_ok made).2.2]
      change (if page.flags &&& flag.toNat = 0 then _ else _) = Except.ok (Option.guard _ page)
      by_cases common : page.flags &&& flag.toNat = 0
      · have without : hasFlag flag page = false := decide_eq_false (not_not.mpr common)
        rw [if_pos common, Option.guard, without]
        rfl
      · have within : hasFlag flag page = true := decide_eq_true common
        rw [if_neg common, Option.guard, within]
        rfl

/-- `for_each_page_flag` yields the pages of `for_each_page` that have a flag of the mask,
in the same order. -/
theorem forEachPageFlag_eq_filter (pageClass : PageClass) (memory : PageMemory) (maxPfn : Int)
    (flag : BitVec 64) :
    forEachPageFlag pageClass memory maxPfn flag =
      (forEachPage pageClass memory maxPfn).filter (hasFlag flag) := by
  simp only [forEachPageFlag, forEachStructPagePfn, forEachPage]
  rw [List.filterMap_filterMap, List.filter_filterMap]
  apply List.filterMap_congr
  intro pfn _
  simp only [pfnToPage]
  cases pageClass.structPageOfPfn pfn with
  | error error => rfl
  | ok structPage =>
      simp only [Option.bind_some]
      rw [flaggedPage_eq]
      cases make memory structPage pfn with
      | error error => rfl
      | ok page => rfl

/-- What `for_each_page` yields: a page for each of the page frames below `max_pfn` whose
struct page is found and can be read. -/
theorem mem_forEachPage {maxPfn : Int} {page : Page memory} :
    page ∈ forEachPage pageClass memory maxPfn <->
      0 ≤ page.pfn ∧ page.pfn < maxPfn ∧ pfnToPage pageClass memory page.pfn = .ok page := by
  have numbered : forall {pfn : Int}, pfnToPage pageClass memory pfn = .ok page -> page.pfn = pfn := by
    intro pfn made
    simp only [pfnToPage] at made
    split at made
    · cases made
    · exact (make_eq_ok made).2.1
  simp only [forEachPage]
  rw [List.mem_filterMap]
  constructor
  · rintro ⟨pfn, below, yields⟩
    rw [List.mem_range] at below
    split at yields
    · cases yields
    · next made found =>
        cases yields
        have number := numbered found
        rw [number]
        exact ⟨Int.natCast_nonneg pfn, by omega, found⟩
  · rintro ⟨nonneg, below, made⟩
    have back : ((page.pfn.toNat : Nat) : Int) = page.pfn := Int.toNat_of_nonneg nonneg
    refine ⟨page.pfn.toNat, List.mem_range.mpr (by omega), ?_⟩
    rw [back, made]

/-! ## The page of an address -/

end Page

/-- What goes wrong when an address is looked up: a read, or the conversion of a Python
integer that is too big for a pointer. -/
inductive PageError where
  | gdb (error : GdbError)
  | overflow
deriving DecidableEq, Repr

namespace Page

variable (pageClass memory) in
/-- `safe_page_from_page_addr`. -/
def safePageFromPageAddr (maxPfn addr : Int) : Except PageError (Option (Page memory)) :=
  if addr < pageClass.vmemmapBase then .ok none
  else
    let pfn := (addr - pageClass.vmemmapBase) / pageClass.pageSizeof
    if maxPfn < pfn then .ok none
    else if 2 ^ 64 ≤ addr then .error .overflow
    else
      match fromPageAddr pageClass memory addr.toNat with
      | .error error => .error (.gdb error)
      | .ok page => .ok (some page)

end Page

namespace PageClass

variable (pageClass : PageClass) (memory : PageMemory)

/-- The address lies inside the struct page that `vmemmap` has for a page frame, and
`for_each_page` comes by this page frame. -/
def LiesInside (maxPfn addr pfn : Int) : Prop :=
  0 ≤ pfn ∧ pfn < maxPfn ∧ pageClass.vmemmapBase + pfn * pageClass.pageSizeof ≤ addr ∧
    addr < pageClass.vmemmapBase + (pfn + 1) * pageClass.pageSizeof

/-- The lookup of an address answers with a page just for the addresses inside the struct
pages of the enumeration, and the page is that of the struct page the address is in. -/
structure ResolvesAddr (maxPfn addr : Int) : Prop where
  found : (Exists fun page : Page memory =>
      Page.safePageFromPageAddr pageClass memory maxPfn addr = .ok (some page)) <->
    Exists fun pfn : Int => pageClass.LiesInside maxPfn addr pfn
  located : forall (pfn : Int) (page : Page memory), pageClass.LiesInside maxPfn addr pfn ->
    Page.safePageFromPageAddr pageClass memory maxPfn addr = .ok (some page) ->
      page.pfn = pfn ∧ (page.address : Int) = pageClass.vmemmapBase + pfn * pageClass.pageSizeof

/-- The number of the struct page that an address is in, counted from the base. -/
def structPageNr (addr : Int) : Int :=
  (addr - pageClass.vmemmapBase) / pageClass.pageSizeof

/-- There is a pointer with this address, and the flags can be read there. -/
def ReadableAt (addr : Int) : Prop :=
  addr < 2 ^ 64 ∧ Exists fun flags : Nat => (memory addr.toNat).flags = .ok flags

/-- The addresses that the lookup resolves as it should: those before and behind all struct
pages, but one behind only if it is not in the next struct page or nothing can be read
there; and the starts of the struct pages that can be read. -/
def GoodAddr (maxPfn addr : Int) : Prop :=
  addr < pageClass.vmemmapBase ∨ maxPfn < pageClass.structPageNr addr ∨
    (pageClass.structPageNr addr = maxPfn ∧ ¬ ReadableAt memory addr) ∨
    (pageClass.structPageNr addr < maxPfn ∧ ReadableAt memory addr ∧
      addr = pageClass.vmemmapBase + pageClass.structPageNr addr * pageClass.pageSizeof)

variable {pageClass memory} {maxPfn addr : Int}

/-- The struct page an address lies inside is the one of its number. -/
theorem liesInside_iff (positive : 0 < pageClass.pageSizeof) {pfn : Int} :
    pageClass.LiesInside maxPfn addr pfn <->
      pageClass.vmemmapBase ≤ addr ∧ pageClass.structPageNr addr < maxPfn ∧
        pageClass.structPageNr addr = pfn := by
  have size : (0 : Int) < pageClass.pageSizeof := by exact_mod_cast positive
  have number : pageClass.structPageNr addr = pfn <->
      pfn * pageClass.pageSizeof ≤ addr - pageClass.vmemmapBase ∧
        addr - pageClass.vmemmapBase < pfn * pageClass.pageSizeof + pageClass.pageSizeof :=
    Int.ediv_eq_iff_of_pos size
  have nonneg : 0 ≤ pageClass.structPageNr addr <-> 0 ≤ addr - pageClass.vmemmapBase :=
    Int.ediv_nonneg_iff_of_pos size
  simp only [LiesInside]
  rw [Int.add_mul, Int.one_mul]
  constructor
  · rintro ⟨counted, below, low, high⟩
    have same := number.mpr ⟨by omega, by omega⟩
    rw [same] at nonneg ⊢
    exact ⟨by omega, below, rfl⟩
  · rintro ⟨low, below, same⟩
    have between := number.mp same
    rw [same] at nonneg below
    exact ⟨by omega, below, by omega, by omega⟩

/-- The lookup answers with a page in one case: the number of the struct page is up to
`max_pfn`, and a page can be made at the address. -/
theorem safePageFromPageAddr_eq_some {page : Page memory} :
    Page.safePageFromPageAddr pageClass memory maxPfn addr = .ok (some page) <->
      pageClass.vmemmapBase ≤ addr ∧ pageClass.structPageNr addr ≤ maxPfn ∧ addr < 2 ^ 64 ∧
        Page.fromPageAddr pageClass memory addr.toNat = .ok page := by
  unfold Page.safePageFromPageAddr structPageNr
  by_cases before : addr < pageClass.vmemmapBase
  · rw [if_pos before]
    simp [not_le.mpr before]
  · rw [if_neg before]
    dsimp only
    by_cases behind : maxPfn < (addr - pageClass.vmemmapBase) / pageClass.pageSizeof
    · rw [if_pos behind]
      simp [not_le.mpr behind]
    · rw [if_neg behind]
      by_cases large : (2 : Int) ^ 64 ≤ addr
      · rw [if_pos large]
        constructor
        · intro impossible
          cases impossible
        · rintro ⟨_, _, small, _⟩
          exact absurd small (not_lt.mpr large)
      · rw [if_neg large]
        cases Page.fromPageAddr pageClass memory addr.toNat with
        | error error => simp
        | ok made =>
            rw [Except.ok.injEq, Except.ok.injEq, Option.some.injEq]
            exact ⟨fun same => ⟨not_lt.mp before, not_lt.mp behind, not_le.mp large, same⟩,
              fun all => all.2.2.2⟩

/-- The page that is answered has the number of the struct page, and the address that was
asked for. -/
theorem safePageFromPageAddr_located {page : Page memory}
    (found : Page.safePageFromPageAddr pageClass memory maxPfn addr = .ok (some page)) :
    page.pfn = pageClass.structPageNr addr ∧ (page.address : Int) = addr := by
  rcases safePageFromPageAddr_eq_some.mp found with ⟨low, _, _, made⟩
  rcases Page.make_eq_ok made with ⟨address, number, _⟩
  have cast : (addr.toNat : Int) = addr := Int.toNat_of_nonneg (by omega)
  rw [address, number, pfnOf, cast]
  exact ⟨rfl, rfl⟩

theorem exists_safePage_iff :
    (Exists fun page : Page memory =>
        Page.safePageFromPageAddr pageClass memory maxPfn addr = .ok (some page)) <->
      pageClass.vmemmapBase ≤ addr ∧ pageClass.structPageNr addr ≤ maxPfn ∧
        ReadableAt memory addr := by
  constructor
  · rintro ⟨page, found⟩
    rcases safePageFromPageAddr_eq_some.mp found with ⟨low, number, small, made⟩
    have read := (Page.make_eq_ok made).2.2
    exact ⟨low, number, small, page.flags, read⟩
  · rintro ⟨low, number, small, flags, read⟩
    rcases make_readable read (pageClass.pfnOf addr.toNat) with ⟨page, made, _⟩
    exact ⟨page, safePageFromPageAddr_eq_some.mpr ⟨low, number, small, made⟩⟩

/-- With `vmemmap`, the page of a struct page that is looked up by its start is one of those
that `for_each_page` yields. -/
theorem safePage_mem_forEachPage (vmemmap : pageClass.sparsemem = none) {page : Page memory}
    (answered : Page.safePageFromPageAddr pageClass memory maxPfn addr = .ok (some page))
    (below : pageClass.structPageNr addr < maxPfn)
    (start : addr = pageClass.vmemmapBase + pageClass.structPageNr addr * pageClass.pageSizeof) :
    page ∈ Page.forEachPage pageClass memory maxPfn := by
  rcases safePageFromPageAddr_eq_some.mp answered with ⟨low, _, small, made⟩
  have number := (safePageFromPageAddr_located answered).1
  have nonneg : 0 ≤ addr := le_trans (Int.natCast_nonneg _) low
  have found : pageClass.structPageOfPfn (pageClass.structPageNr addr) = .ok addr.toNat := by
    simp only [structPageOfPfn]
    rw [vmemmap, ← start]
    exact congrArg Except.ok (pointerOf_of_lt nonneg small)
  rw [Page.mem_forEachPage, number]
  refine ⟨Int.ediv_nonneg (by omega) (Int.natCast_nonneg _), below, ?_⟩
  simp only [Page.pfnToPage]
  rw [found, ← made, Page.fromPageAddr, pfnOf, structPageNr, Int.toNat_of_nonneg nonneg]

/-- Some page frame of `for_each_page` has the address inside of its struct page. -/
theorem exists_liesInside_iff {pageClass : PageClass} {maxPfn addr : Int}
    (positive : 0 < pageClass.pageSizeof) :
    (Exists fun pfn : Int => pageClass.LiesInside maxPfn addr pfn) <->
      pageClass.vmemmapBase ≤ addr ∧ pageClass.structPageNr addr < maxPfn := by
  constructor
  · rintro ⟨pfn, lies⟩
    rcases (liesInside_iff positive).mp lies with ⟨low, below, _⟩
    exact ⟨low, below⟩
  · rintro ⟨low, below⟩
    exact ⟨_, (liesInside_iff positive).mpr ⟨low, below, rfl⟩⟩

/-- The lookup of an address is right exactly for the good addresses.  It accepts the
struct page behind the last one, and it does not go back to the start of a struct page. -/
theorem resolvesAddr_iff (pageClass : PageClass) (memory : PageMemory) (maxPfn addr : Int)
    (positive : 0 < pageClass.pageSizeof) :
    pageClass.ResolvesAddr memory maxPfn addr <-> pageClass.GoodAddr memory maxPfn addr := by
  constructor
  · intro resolves
    have found := resolves.found
    rw [exists_safePage_iff, exists_liesInside_iff positive] at found
    by_cases before : addr < pageClass.vmemmapBase
    · exact Or.inl before
    have low := not_lt.mp before
    rcases lt_trichotomy (pageClass.structPageNr addr) maxPfn with below | last | behind
    · have readable := (found.mpr ⟨low, below⟩).2.2
      rcases exists_safePage_iff.mpr ⟨low, le_of_lt below, readable⟩ with ⟨page, answered⟩
      have start := (resolves.located _ page
        ((liesInside_iff positive).mpr ⟨low, below, rfl⟩) answered).2
      rw [(safePageFromPageAddr_located answered).2] at start
      exact Or.inr (Or.inr (Or.inr ⟨below, readable, start⟩))
    · refine Or.inr (Or.inr (Or.inl ⟨last, ?_⟩))
      intro readable
      exact absurd (found.mp ⟨low, le_of_eq last, readable⟩).2 (not_lt.mpr (le_of_eq last.symm))
    · exact Or.inr (Or.inl behind)
  · intro good
    constructor
    · rw [exists_safePage_iff, exists_liesInside_iff positive]
      rcases good with before | behind | ⟨last, unreadable⟩ | ⟨below, readable, _⟩
      · simp [not_le.mpr before]
      · simp [not_le.mpr behind, not_lt.mpr (le_of_lt behind)]
      · simp [last, unreadable]
      · simp [below, le_of_lt below, readable]
    · intro pfn page lies answered
      rcases (liesInside_iff positive).mp lies with ⟨low, below, same⟩
      rcases safePageFromPageAddr_located answered with ⟨number, address⟩
      rw [number, address, ← same]
      refine ⟨rfl, ?_⟩
      rcases good with before | behind | ⟨last, _⟩ | ⟨_, _, start⟩
      · exact absurd low (not_le.mpr before)
      · exact absurd below (not_lt.mpr (le_of_lt behind))
      · exact absurd below (not_lt.mpr (le_of_eq last.symm))
      · exact start

theorem resolvesAddr_iff_thirdPage :
    0 < vmemmapClass.pageSizeof ∧
      (vmemmapClass.ResolvesAddr flaggedPages 4 (0xffffea0000000000 + 3 * 64) <->
        vmemmapClass.GoodAddr flaggedPages 4 (0xffffea0000000000 + 3 * 64)) :=
  ⟨by decide, resolvesAddr_iff vmemmapClass flaggedPages 4 (0xffffea0000000000 + 3 * 64) (by decide)⟩

/-- With four pages, the address of a fifth struct page is resolved to a page.  An address
in the middle of the first struct page is resolved to a page whose struct page would start
in the middle. -/
theorem not_resolvesAddr_vmemmap :
    ¬ vmemmapClass.ResolvesAddr flaggedPages 4 (0xffffea0000000000 + 4 * 64) ∧
      ¬ vmemmapClass.ResolvesAddr flaggedPages 4 (0xffffea0000000000 + 8) := by
  constructor
  · intro resolves
    rcases resolves.found.mp ⟨⟨0xffffea0000000000 + 4 * 64, 4, 0, rfl⟩, by rfl⟩ with
      ⟨pfn, nonneg, below, low, high⟩
    change 0xffffea0000000000 + pfn * 64 ≤ (0xffffea0000000000 + 4 * 64 : Int) at low
    change (0xffffea0000000000 + 4 * 64 : Int) < 0xffffea0000000000 + (pfn + 1) * 64 at high
    omega
  · intro resolves
    have wrong := (resolves.located 0 ⟨0xffffea0000000000 + 8, 0, 0, rfl⟩
      ⟨by decide, by decide, by decide, by decide⟩ (by rfl)).2
    exact absurd wrong (by decide)

end PageClass

end Types
end CrashPython

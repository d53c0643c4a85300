import CrashPython.Slab.SlabSLUB
import CrashPython.Types.PageConversions
import CrashPython.Types.PageEnumeration

namespace CrashPython
namespace Slab

open Library Types

/-!
# Finding the slab of an address

`slab_from_obj_addr` looks up the slab of an object.  It finds the page of the address,
goes on to the head of its compound page, and makes the slab of that.  The `kmem` command
is also given addresses of struct pages.  It tells them from other addresses by where they
lie, and looks at the head page too; but only to see whether that belongs to a slab.  The
slab it makes is that of the page itself.
-/

/-- The memory that the lookups read.  The fields of a struct page that the wrapper
`Page` uses are in `pages`. -/
structure SlubLookup where
  system : SlubSystem
  pages : PageMemory
  maxPfn : Int

/-- The exceptions of the `kmem` command: those of the lookups, and its own for an address
that is not known to the allocator. -/
inductive KmemError where
  | slab (error : SlabException)
  | notFound
deriving DecidableEq, Repr

namespace SlubLookup

variable (lookup : SlubLookup)

/-- `safe_page_from_page_addr`. -/
def safePageFromPageAddr (addr : Nat) : Except GdbError (Option (Page lookup.pages)) :=
  if addr < lookup.system.pageClass.vmemmapBase then .ok none
  else if lookup.maxPfn < lookup.system.pageClass.pfnOf addr then .ok none
  else (Page.fromPageAddr lookup.system.pageClass lookup.pages addr).map some

/-- `slab_from_page`. -/
def slabFromPage (page : Page lookup.pages) : Except SlabException SlabSLUB :=
  SlabSLUB.fromPageObj lookup.system page.address

/-- `slab_from_obj_addr`. -/
def slabFromObjAddr (addr : Nat) : Except SlabException (Option SlabSLUB) := do
  let page <- fetched (Page.headOfAddr lookup.system.pageClass lookup.pages addr)
  if page.isSlab lookup.system.pageClass then (lookup.slabFromPage page).map some else return none

/-- The slab that the `kmem` command resolves from the address of a struct page. -/
def slabOfStructPage (page : Page lookup.pages) : Except SlabException (Option SlabSLUB) := do
  let head <- fetched (page.compoundHead lookup.system.pageClass)
  if head.isSlab lookup.system.pageClass then (lookup.slabFromPage page).map some else return none

/-- The slab that the `kmem` command resolves from an address. -/
def kmemSlab (addr : Nat) : Except KmemError (Option SlabSLUB) :=
  match fetched (lookup.safePageFromPageAddr addr) with
  | .error error => .error (.slab error)
  | .ok (some page) => (lookup.slabOfStructPage page).mapError .slab
  | .ok none =>
      match lookup.slabFromObjAddr addr with
      | .error error => .error (.slab error)
      | .ok none => .error .notFound
      | .ok (some slab) => .ok (some slab)

/-- The `kmem` command takes the address for that of a struct page. -/
def TakenForStructPage (addr : Nat) : Prop :=
  lookup.system.pageClass.vmemmapBase ≤ addr ∧ lookup.system.pageClass.pfnOf addr ≤ lookup.maxPfn

/-- A slab in a compound page.  The pages after the first are tail pages that link to it;
what their other fields hold does not matter. -/
structure CompoundSlab where
  pfn : Int
  order : Nat
  page : Nat -> Page lookup.pages
  found : forall n : Nat, n < 2 ^ order ->
    Page.pfnToPage lookup.system.pageClass lookup.pages (pfn + n) = .ok (page n)
  headFirst : (page 0).isTail lookup.system.pageClass = .ok false
  tailsFollow : forall n : Nat, 0 < n -> n < 2 ^ order ->
    (page n).isTail lookup.system.pageClass = .ok true ∧
      (page n).compoundHeadAddress lookup.system.pageClass = .ok (page 0).address
  headIsSlab : (page 0).isSlab lookup.system.pageClass = true
  slab : SlabSLUB
  slabMade : SlabSLUB.fromPageObj lookup.system (page 0).address = .ok slab

variable {lookup}

/-- For an address that fits a pointer, the lookup of the command is that of the page
wrapper. -/
theorem safePageFromPageAddr_eq {addr : Nat} (small : addr < 2 ^ 64) :
    (lookup.safePageFromPageAddr addr).mapError .gdb =
      Page.safePageFromPageAddr lookup.system.pageClass lookup.pages lookup.maxPfn addr := by
  have fits : ¬ (2 ^ 64 : Int) ≤ addr := by omega
  simp only [safePageFromPageAddr, Page.safePageFromPageAddr]
  by_cases before : addr < lookup.system.pageClass.vmemmapBase
  · rw [if_pos before, if_pos (Int.ofNat_lt.mpr before)]
    rfl
  · rw [if_neg before, if_neg (Int.ofNat_lt.not.mpr before), PageClass.pfnOf]
    by_cases behind : lookup.maxPfn <
        ((addr : Int) - lookup.system.pageClass.vmemmapBase) / lookup.system.pageClass.pageSizeof
    · simp only [if_pos behind]
      rfl
    · simp only [if_neg behind, if_neg fits, Int.toNat_natCast]
      cases Page.fromPageAddr lookup.system.pageClass lookup.pages addr <;> rfl

theorem map_some_eq_ok {Error Value : Type} {made : Except Error Value} {value : Value} :
    made.map some = .ok (some value) <-> made = .ok value := by
  cases made with
  | error error => simp [Except.map]
  | ok found => simp [Except.map]

namespace CompoundSlab

/-- The address lies in a page of the slab. -/
def InPage (compound : lookup.CompoundSlab) (n addr : Nat) : Prop :=
  lookup.system.pageClass.directmapBase + (compound.pfn + n) * lookup.system.pageClass.pageSize ≤
      (addr : Int) ∧
    (addr : Int) < lookup.system.pageClass.directmapBase +
      (compound.pfn + n) * lookup.system.pageClass.pageSize + lookup.system.pageClass.pageSize

/-- The page that an address lies in has the head page of the slab for its head. -/
def LiesIn (compound : lookup.CompoundSlab) (addr : Nat) : Prop :=
  Exists fun head : Page lookup.pages =>
    Page.headOfAddr lookup.system.pageClass lookup.pages addr = .ok head ∧
      head.address = (compound.page 0).address

/-- The command resolves the slab of an object anywhere in the page from the address of the
struct page. -/
def Resolves (compound : lookup.CompoundSlab) (n : Nat) : Prop :=
  lookup.kmemSlab (compound.page n).address = .ok (some compound.slab) ∧
    forall addr, compound.InPage n addr -> lookup.slabFromObjAddr addr = .ok (some compound.slab)

variable (compound : lookup.CompoundSlab)

/-- A wrapper at the address of the head page belongs to the slab. -/
theorem isSlab_of_address {page : Page lookup.pages}
    (same : page.address = (compound.page 0).address) :
    page.isSlab lookup.system.pageClass = true := by
  have flags := Page.flags_eq_of_address same
  have head := compound.headIsSlab
  simp only [Page.isSlab] at head ⊢
  rw [flags]
  exact head

/-- Every page of the slab leads to its head page. -/
theorem head_of_page {n : Nat} (inside : n < 2 ^ compound.order) {page : Page lookup.pages}
    (same : page.address = (compound.page n).address) :
    Exists fun head : Page lookup.pages =>
      page.compoundHead lookup.system.pageClass = .ok head ∧
        head.address = (compound.page 0).address := by
  simp only [Page.compoundHead]
  rw [Page.isTail_eq_of_address _ same]
  cases n with
  | zero =>
      rw [compound.headFirst]
      exact ⟨page, rfl, same⟩
  | succ previous =>
      have follows := compound.tailsFollow _ (Nat.succ_pos previous) inside
      rw [follows.1, Page.compoundHeadAddress_eq_of_address _ same, follows.2]
      rcases PageClass.make_readable (compound.page 0).flagsRead
        (lookup.system.pageClass.pfnOf (compound.page 0).address) with ⟨head, made, here, _⟩
      exact ⟨head, made, here⟩

/-- A tail page is not at the address of the head page. -/
theorem address_ne {n : Nat} (positive : 0 < n) (inside : n < 2 ^ compound.order) :
    (compound.page n).address ≠ (compound.page 0).address := by
  intro same
  have tail := (compound.tailsFollow n positive inside).1
  rw [Page.isTail_eq_of_address _ same, compound.headFirst] at tail
  cases tail

/-- The slab is at the address of the head page. -/
theorem slab_address : compound.slab.address = (compound.page 0).address :=
  (SlabSLUB.fromPageObj_ok lookup.system compound.slabMade).1

/-- The slab that is made of a page is that of the compound page exactly if the page is its
head. -/
theorem slabFromPage_iff (page : Page lookup.pages) :
    lookup.slabFromPage page = .ok compound.slab <->
      page.address = (compound.page 0).address := by
  constructor
  · intro made
    rw [← compound.slab_address]
    exact (SlabSLUB.fromPageObj_ok lookup.system made).1.symm
  · intro same
    simp only [slabFromPage]
    rw [same]
    exact compound.slabMade

/-- `slab_from_obj_addr` finds the slab from the addresses whose page leads to its head. -/
theorem slabFromObjAddr_iff (addr : Nat) :
    lookup.slabFromObjAddr addr = .ok (some compound.slab) <-> compound.LiesIn addr := by
  simp only [slabFromObjAddr, LiesIn]
  cases Page.headOfAddr lookup.system.pageClass lookup.pages addr with
  | error error =>
      constructor
      · intro impossible
        cases impossible
      · rintro ⟨_, impossible, _⟩
        cases impossible
  | ok head =>
      change (if head.isSlab lookup.system.pageClass then
        (lookup.slabFromPage head).map some else .ok none) = _ <-> _
      constructor
      · intro found
        refine ⟨head, rfl, ?_⟩
        split at found
        · exact (compound.slabFromPage_iff head).mp (map_some_eq_ok.mp found)
        · cases found
      · rintro ⟨other, found, same⟩
        cases found
        rw [if_pos (compound.isSlab_of_address same), (compound.slabFromPage_iff head).mpr same]
        rfl

/-- Every address in a page of the slab leads to its head page. -/
theorem liesIn_of_inPage {n addr : Nat} (inside : n < 2 ^ compound.order)
    (here : compound.InPage n addr) : compound.LiesIn addr := by
  rcases compound.head_of_page inside rfl with ⟨head, heads, same⟩
  refine ⟨head, ?_, same⟩
  simp only [Page.headOfAddr, Page.fromAddr]
  rw [PageClass.fromAddr_of_between here.1 here.2, compound.found n inside]
  exact heads

/-- The command takes the address of a struct page for what it is, and makes the slab of
the page itself. -/
theorem kmemSlab_taken {n : Nat} (inside : n < 2 ^ compound.order)
    (taken : lookup.TakenForStructPage (compound.page n).address) :
    lookup.kmemSlab (compound.page n).address = .ok (some compound.slab) <-> n = 0 := by
  rcases PageClass.make_readable (compound.page n).flagsRead
    (lookup.system.pageClass.pfnOf (compound.page n).address) with ⟨page, made, here, _⟩
  have safe : fetched (lookup.safePageFromPageAddr (compound.page n).address) = .ok (some page) := by
    simp only [safePageFromPageAddr, Page.fromPageAddr]
    rw [if_neg (Nat.not_lt.mpr taken.1), if_neg (Int.not_lt.mpr taken.2), made]
    rfl
  rcases compound.head_of_page inside here with ⟨head, heads, same⟩
  have resolved : lookup.kmemSlab (compound.page n).address =
      ((lookup.slabFromPage page).map some).mapError KmemError.slab := by
    simp only [kmemSlab]
    rw [safe]
    change (lookup.slabOfStructPage page).mapError KmemError.slab = _
    simp only [slabOfStructPage]
    rw [heads]
    change (if head.isSlab lookup.system.pageClass then (lookup.slabFromPage page).map some
      else .ok none).mapError KmemError.slab = _
    rw [if_pos (compound.isSlab_of_address same)]
  rw [resolved]
  constructor
  · intro found
    have itself : lookup.slabFromPage page = .ok compound.slab := by
      apply map_some_eq_ok.mp
      exact mapError_eq_ok found
    rcases Nat.eq_zero_or_pos n with zero | positive
    · exact zero
    · have atHead := (compound.slabFromPage_iff page).mp itself
      exact False.elim (compound.address_ne positive inside (here.symm.trans atHead))
  · intro zero
    rw [zero] at here
    rw [(compound.slabFromPage_iff page).mpr here]
    rfl

/-- An address that the command does not take for that of a struct page is looked up as
that of an object. -/
theorem kmemSlab_notTaken {addr : Nat} (notTaken : ¬ lookup.TakenForStructPage addr) :
    lookup.kmemSlab addr = .ok (some compound.slab) <->
      lookup.slabFromObjAddr addr = .ok (some compound.slab) := by
  have safe : fetched (lookup.safePageFromPageAddr addr) = .ok none := by
    simp only [safePageFromPageAddr]
    split
    · rfl
    · next low =>
        split
        · rfl
        · next high => exact False.elim (notTaken ⟨Nat.not_lt.mp low, Int.not_lt.mp high⟩)
  simp only [kmemSlab]
  simp only [safe]
  cases lookup.slabFromObjAddr addr with
  | error error => simp
  | ok found =>
      cases found with
      | none => simp
      | some slab => simp

end CompoundSlab

end SlubLookup

/-- When the two ways agree on the slab of a page: at the head page, whose slab the command
makes as it should, and at no other.  A struct page that the command does not recognize is
looked up as an object, and would have to lie in the slab itself. -/
theorem kmem_resolves_iff {lookup : SlubLookup} (compound : lookup.CompoundSlab) {n : Nat}
    (inside : n < 2 ^ compound.order) :
    compound.Resolves n <->
      (lookup.TakenForStructPage (compound.page n).address ∧ n = 0) ∨
        (¬ lookup.TakenForStructPage (compound.page n).address ∧
          compound.LiesIn (compound.page n).address) := by
  have objects : forall addr, compound.InPage n addr ->
      lookup.slabFromObjAddr addr = .ok (some compound.slab) := fun addr here =>
    (compound.slabFromObjAddr_iff addr).mpr (compound.liesIn_of_inPage inside here)
  have resolves : compound.Resolves n <->
      lookup.kmemSlab (compound.page n).address = .ok (some compound.slab) :=
    ⟨fun both => both.1, fun first => ⟨first, objects⟩⟩
  rw [resolves]
  by_cases taken : lookup.TakenForStructPage (compound.page n).address
  · rw [compound.kmemSlab_taken inside taken]
    constructor
    · intro zero
      exact .inl ⟨taken, zero⟩
    · rintro (⟨_, zero⟩ | ⟨notTaken, _⟩)
      · exact zero
      · exact False.elim (notTaken taken)
  · rw [compound.kmemSlab_notTaken taken, compound.slabFromObjAddr_iff]
    constructor
    · intro lies
      exact .inr ⟨taken, lies⟩
    · rintro (⟨really, _⟩ | ⟨_, lies⟩)
      · exact False.elim (taken really)
      · exact lies

/-- A cache whose slabs have two pages. -/
def pairCache : KmemCacheSLUB where
  name := "pair"
  address := 16
  size := 64
  flags := 0
  fpOffset := 0
  redLeftPadField := 0
  inuse := 64
  cpuSlab := fun _ => .error (.gdb .memoryError)
  nodelist := fun _ => .ok none

/-- The struct page of page frame 4 is that of a slab, and the next one is its tail. -/
def pairLookup : SlubLookup where
  system := .single pairCache [0]
    [(0xffffea0000000100, ⟨.ok 0, .ok 128, .ok 1, .ok 0, .ok 16, .ok 0, .ok 0⟩),
      (0xffffea0000000140, ⟨.ok 0, .ok 0, .ok 0, .ok 0, .ok 0, .ok 0, .ok 0⟩)] []
  pages := fun address =>
    if address = 0xffffea0000000100 then { flags := .ok 4, compoundHead := .ok 0 }
    else { flags := .ok 0, compoundHead := .ok 0xffffea0000000101 }
  maxPfn := 1000

/-- The slab of page frames 4 and 5. -/
def pairSlab : pairLookup.CompoundSlab where
  pfn := 4
  order := 1
  page := fun n =>
    if n = 0 then ⟨0xffffea0000000100, 4, 4, rfl⟩ else ⟨0xffffea0000000140, 5, 0, rfl⟩
  found := by
    intro n inside
    rcases (by omega : n = 0 ∨ n = 1) with zero | one
    · rw [zero]
      rfl
    · rw [one]
      rfl
  headFirst := rfl
  tailsFollow := by
    intro n positive inside
    rw [show n = 1 by omega]
    exact ⟨rfl, rfl⟩
  headIsSlab := rfl
  slab := ⟨0xffffea0000000100, pairCache, 128, 1, ∅, false, false⟩
  slabMade := rfl

theorem kmem_resolves_iff_headPage :
    0 < 2 ^ pairSlab.order ∧
      (pairSlab.Resolves 0 <->
        (pairLookup.TakenForStructPage (pairSlab.page 0).address ∧ 0 = 0) ∨
          (¬ pairLookup.TakenForStructPage (pairSlab.page 0).address ∧
            pairSlab.LiesIn (pairSlab.page 0).address)) :=
  ⟨by decide, kmem_resolves_iff pairSlab (by decide)⟩

/-- From the struct page of the tail page the command comes to no cache, although it has
seen that the page belongs to a slab. -/
theorem kmem_misses_tail :
    pairLookup.TakenForStructPage 0xffffea0000000140 ∧
      (pairSlab.page 1).address = 0xffffea0000000140 ∧
      (forall addr, pairSlab.InPage 1 addr ->
        pairLookup.slabFromObjAddr addr = .ok (some pairSlab.slab)) ∧
      pairLookup.kmemSlab 0xffffea0000000140 = .error (.slab (.kmemCacheNotFound 0)) ∧
      ¬ pairSlab.Resolves 1 := by
  have missed : pairLookup.kmemSlab 0xffffea0000000140 =
      .error (.slab (.kmemCacheNotFound 0)) := rfl
  refine ⟨⟨by decide, by decide⟩, rfl, fun addr here => ?_, missed, fun both => ?_⟩
  · exact (pairSlab.slabFromObjAddr_iff addr).mpr (pairSlab.liesIn_of_inPage (by decide) here)
  · have found := missed.symm.trans both.1
    cases found

end Slab
end CrashPython

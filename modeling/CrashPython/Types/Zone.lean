import CrashPython.Library.PyString
import CrashPython.Types.Cpu
import CrashPython.Types.ListEntries
import CrashPython.Types.PageZones

namespace CrashPython
namespace Types

open Library

/-!
# The free pages of a zone

`crash/types/zone.py` goes through the lists of free pages of a zone, those of the zone itself and
those that each processor keeps for it.  It looks at the node and the zone in the flags of each
page, and compares the number of pages with the number that the lists are said to have.

An exception for a list that can not be read is caught, and the check goes on with the next list.
An exception for any other fault of a list is of another class and ends the check.
-/

/-- The two kinds of lists that are checked. -/
inductive AreaKind where
  | freeArea
  | pcp
deriving DecidableEq, Repr

/-- The local variable `error_desc`. -/
def AreaKind.errorDesc : AreaKind -> String
  | .freeArea => "free area"
  | .pcp => "pcplist"

/-- The lists of a `struct free_area` or of a `struct per_cpu_pages`, with the number of pages that
should be on them. -/
structure FreeArea where
  address : Nat
  lists : List Nat
  expected : Except GdbError Int

/-- The part of a zone that one processor has. -/
structure PerCpuPageset where
  pcp : FreeArea
  vmStatDiff : Nat -> Except GdbError Int

/-- A zone with its wrapper. -/
structure Zone where
  address : Nat
  nid : Int
  zid : Nat
  name : Except GdbError PyString
  presentPages : Except GdbError Nat
  vmStat : Nat -> Except GdbError Int
  freeArea : List FreeArea
  pageset : Nat -> Except GdbError PerCpuPageset

/-- A printed line. -/
inductive ZoneLine where
  | broken (link : BrokenLink)
  | misplaced (kind : AreaKind) (page : Nat) (nid : Int) (zid : Nat) (pageNid pageZid : Nat)
  | traversing (error : ListError)
  | mismatch (kind : AreaKind) (address : Nat) (expected counted : Int)
deriving DecidableEq, Repr

/-- The text of a printed line. -/
def ZoneLine.text : ZoneLine -> String
  | .broken link => link.text .next .prev
  | .misplaced kind page nid zid pageNid pageZid =>
      "page " ++ hexAddress page ++ " misplaced on " ++ kind.errorDesc ++ " of node " ++ toString nid ++
        " zone " ++ toString zid ++ ", has flags for node " ++ toString pageNid ++ " zone " ++
        toString pageZid
  | .traversing error => "Error traversing free area: " ++ error.text hexAddress "" ""
  | .mismatch kind address expected counted =>
      "nr_free mismatch in " ++ kind.errorDesc ++ " " ++ hexAddress address ++ ": expected " ++
        toString expected ++ ", counted " ++ toString counted

/-- What is seen of the loop over the pages: the counter goes up, and lines are printed. -/
inductive ZoneEvent where
  | counted (page : Nat)
  | printed (line : ZoneLine)
deriving DecidableEq, Repr

/-- The line of an event. -/
def ZoneEvent.shown : ZoneEvent -> Option ZoneLine
  | .counted _ => none
  | .printed line => some line

/-- The page of an event. -/
def ZoneEvent.page : ZoneEvent -> Option Nat
  | .counted page => some page
  | .printed _ => none

/-- Everything that can leave the check. -/
inductive ZoneError where
  | list (error : ListError)
  | gdb (error : GdbError)
  | shift (error : ShiftError)
deriving DecidableEq, Repr

/-- The memory and the classes that the check uses.  The offset is that of `lru` in a page. -/
structure ZoneMemory where
  lists : ListMemory
  pages : PageMemory
  pageClass : ZonedPageClass
  lruOffset : Nat
  cpus : TypesCPUClass

namespace ZoneMemory

variable (memory : ZoneMemory) (zone : Zone)

/-- The body of the inner loop of `_check_free_area`. -/
def checkPage (kind : AreaKind) (page : Nat) : Run ZoneEvent ZoneError :=
  match Page.fromPageAddr memory.pageClass.toPageClass memory.pages page with
  | .error error => ⟨[], .raised (.gdb error)⟩
  | .ok obj =>
      let nid := obj.getNid memory.pageClass.toPageClass
      match obj.getZid memory.pageClass with
      | .error error => ⟨[.counted page], .raised (.shift error)⟩
      | .ok zid =>
          if (nid : Int) ≠ zone.nid ∨ zid ≠ zone.zid then
            ⟨[.counted page, .printed (.misplaced kind page zone.nid zone.zid nid zid)], .completed⟩
          else ⟨[.counted page], .completed⟩

/-- One event of `list_for_each_entry`, with the lines about broken links. -/
def checkEvent (kind : AreaKind) : ListEvent -> Run ZoneEvent ZoneError
  | .printed link => ⟨[.printed (.broken link)], .completed⟩
  | .yielded node => memory.checkPage zone kind (entryOf memory.lruOffset node)

/-- The `try` block of `_check_free_area`. -/
def walkFreeList (kind : AreaKind) (head : Nat) : Run ZoneEvent ZoneError :=
  (listRun memory.lists.image {} head).forEach .list (memory.checkEvent zone kind)

/-- The `try` block with its handler. -/
def checkFreeList (kind : AreaKind) (head : Nat) : Run ZoneEvent ZoneError :=
  let run := memory.walkFreeList zone kind head
  match run.ending with
  | .raised (.list error) =>
      if error.errorClass = .bufferError then
        ⟨run.events ++ [.printed (.traversing error)], .completed⟩
      else run
  | _ => run

/-- `_check_free_area`. -/
def checkFreeArea (kind : AreaKind) (area : FreeArea) : Run ZoneLine ZoneError :=
  let run := Run.chain (area.lists.map (memory.checkFreeList zone kind))
  let lines := run.events.filterMap ZoneEvent.shown
  let nrFree : Int := (run.events.filterMap ZoneEvent.page).length
  match run.ending with
  | .raised error => ⟨lines, .raised error⟩
  | .completed =>
      match area.expected with
      | .error error => ⟨lines, .raised (.gdb error)⟩
      | .ok expected =>
          ⟨lines ++ (if nrFree ≠ expected then [.mismatch kind area.address expected nrFree] else []),
            .completed⟩

/-- The second loop of `check_free_pages`. -/
def checkPcp (cpu : Nat) : Run ZoneLine ZoneError :=
  match zone.pageset cpu with
  | .error error => ⟨[], .raised (.gdb error)⟩
  | .ok pageset => memory.checkFreeArea zone .pcp pageset.pcp

/-- `check_free_pages`. -/
def checkFreePages : Run ZoneLine ZoneError :=
  (Run.chain (zone.freeArea.map (memory.checkFreeArea zone .freeArea))).followedBy
    (Run.chain (memory.cpus.cpusOnline.map (memory.checkPcp zone)))

/-- The flags of a page have the node and the zone. -/
def Placed (page : Nat) : Prop :=
  Exists fun obj : Page memory.pages =>
    Page.fromPageAddr memory.pageClass.toPageClass memory.pages page = .ok obj ∧
      (obj.getNid memory.pageClass.toPageClass : Int) = zone.nid ∧
        obj.getZid memory.pageClass = .ok zone.zid

/-- The lists of an area are sound, their pages belong to the zone, and their number is right. -/
def Consistent (area : FreeArea) : Prop :=
  Exists fun pages : Nat -> List Nat =>
    (forall head, head ∈ area.lists -> SoundList memory.lists memory.lruOffset head (pages head) ∧
      forall page, page ∈ pages head -> memory.Placed zone page) ∧
      area.expected = .ok ((area.lists.flatMap pages).length : Nat)

variable {memory zone} {kind : AreaKind} {page head : Nat} {area : FreeArea}

/-- An event that only counts. -/
def Counts (event : ZoneEvent) : Prop :=
  event.shown = none

/-- A page is passed over without a line exactly if it belongs to the zone. -/
theorem checkPage_clean : (memory.checkPage zone kind page).Clean Counts <-> memory.Placed zone page := by
  rw [checkPage, Placed]
  cases made : Page.fromPageAddr memory.pageClass.toPageClass memory.pages page with
  | error error =>
      constructor
      · intro clean
        cases clean.1
      · rintro ⟨obj, impossible, _⟩
        cases impossible
  | ok obj =>
      cases zoned : obj.getZid memory.pageClass with
      | error error =>
          simp only [zoned]
          constructor
          · intro clean
            cases clean.1
          · rintro ⟨other, same, _, impossible⟩
            cases same
            rw [zoned] at impossible
            cases impossible
      | ok zid =>
          simp only [zoned]
          by_cases wrong : (obj.getNid memory.pageClass.toPageClass : Int) ≠ zone.nid ∨ zid ≠ zone.zid
          · rw [if_pos wrong]
            constructor
            · intro clean
              cases clean.2 _ (List.mem_cons_of_mem _ List.mem_cons_self)
            · rintro ⟨other, same, node, placed⟩
              cases same
              cases zoned.symm.trans placed
              exact False.elim (wrong.elim (fun differs => differs node) fun differs => differs rfl)
          · rw [if_neg wrong]
            rcases not_or.mp wrong with ⟨node, inZone⟩
            refine ⟨fun _ => ⟨obj, rfl, not_not.mp node, zoned.trans (congrArg _ (not_not.mp inZone))⟩, fun _ => ?_⟩
            refine ⟨rfl, fun event member => ?_⟩
            rw [List.mem_singleton.mp member]
            exact (rfl : ZoneEvent.shown (.counted page) = none)

/-- What is left of the page in the events. -/
theorem checkPage_events (placed : memory.Placed zone page) :
    memory.checkPage zone kind page = ⟨[.counted page], .completed⟩ := by
  rcases placed with ⟨obj, made, node, inZone⟩
  simp only [checkPage, made, inZone, node, ne_eq, not_true_eq_false, or_self, if_false]

/-- A list is walked without a line exactly if it is sound and its pages belong to the zone. -/
theorem walkFreeList_clean : (memory.walkFreeList zone kind head).Clean Counts <->
    Exists fun pages : List Nat => SoundList memory.lists memory.lruOffset head pages ∧
      forall page, page ∈ pages -> memory.Placed zone page := by
  rw [walkFreeList, Run.clean_forEach]
  constructor
  · rintro ⟨completed, bodies⟩
    rcases ring_of_completed (listRun_cases memory.lists.image {} head) completed with
      ⟨nodes, ring, linked, yields⟩
    rw [if_neg Bool.false_ne_true, List.nil_append] at yields
    refine ⟨_, ⟨nodes, ring, linked, rfl⟩, fun page member => ?_⟩
    rcases List.mem_map.mp member with ⟨node, listed, rfl⟩
    have emitted : ListEvent.yielded node ∈ (listRun memory.lists.image {} head).events := by
      rw [listRun_events completed, yields]
      exact List.mem_map_of_mem listed
    exact checkPage_clean.mp (bodies _ emitted)
  · rintro ⟨pages, ⟨nodes, ring, linked, rfl⟩, placed⟩
    rcases listRun_ring ring linked rfl with ⟨yields, completed⟩
    refine ⟨completed, fun event member => ?_⟩
    rw [listRun_events completed, yields] at member
    rcases List.mem_map.mp member with ⟨node, listed, rfl⟩
    exact checkPage_clean.mpr (placed _ (List.mem_map_of_mem listed))

/-- The pages of a sound list are all counted. -/
theorem walkFreeList_events {pages : List Nat} (sound : SoundList memory.lists memory.lruOffset head pages)
    (placed : forall page, page ∈ pages -> memory.Placed zone page) :
    memory.walkFreeList zone kind head = ⟨pages.map .counted, .completed⟩ := by
  rcases sound with ⟨nodes, ring, linked, rfl⟩
  rcases listRun_ring ring linked rfl with ⟨yields, completed⟩
  have shape : listRun memory.lists.image {} head = ⟨nodes.map .yielded, .completed⟩ := by
    have events := listRun_events completed
    rw [yields] at events
    rw [← events, ← completed]
  rw [walkFreeList, shape]
  have emitted : forall event, event ∈ nodes.map ListEvent.yielded ->
      memory.checkEvent zone kind event =
        ⟨(yieldedNodes [event]).map fun node => .counted (entryOf memory.lruOffset node), .completed⟩ := by
    intro event member
    rcases List.mem_map.mp member with ⟨node, listed, rfl⟩
    exact checkPage_events (placed _ (List.mem_map_of_mem listed))
  rw [Run.forEach_emits emitted, List.flatMap_map, List.map_map, List.map_eq_flatMap]
  rfl

/-- The handler hides nothing from a walk without lines. -/
theorem checkFreeList_clean : (memory.checkFreeList zone kind head).Clean Counts <->
    (memory.walkFreeList zone kind head).Clean Counts := by
  simp only [checkFreeList]
  cases ended : (memory.walkFreeList zone kind head).ending with
  | completed => exact Iff.rfl
  | raised error =>
      have unclean : ¬ (memory.walkFreeList zone kind head).Clean Counts := by
        intro clean
        cases ended.symm.trans clean.1
      cases error with
      | gdb error => exact Iff.rfl
      | shift error => exact Iff.rfl
      | list error =>
          by_cases buffer : error.errorClass = .bufferError
          · simp only [if_pos buffer]
            refine ⟨fun clean => ?_, fun clean => False.elim (unclean clean)⟩
            cases clean.2 _ (List.mem_append_right _ (List.mem_singleton_self _))
          · simp only [if_neg buffer]

theorem checkFreeList_events {pages : List Nat} (sound : SoundList memory.lists memory.lruOffset head pages)
    (placed : forall page, page ∈ pages -> memory.Placed zone page) :
    memory.checkFreeList zone kind head = ⟨pages.map .counted, .completed⟩ := by
  simp only [checkFreeList, walkFreeList_events sound placed]

/-- The pages on the lists of an area are counted one after the other. -/
theorem chain_checkFreeList {pages : Nat -> List Nat}
    (sound : forall head, head ∈ area.lists -> SoundList memory.lists memory.lruOffset head (pages head) ∧
      forall page, page ∈ pages head -> memory.Placed zone page) :
    Run.chain (area.lists.map (memory.checkFreeList zone kind)) =
      ⟨(area.lists.flatMap pages).map .counted, .completed⟩ := by
  have runs : area.lists.map (memory.checkFreeList zone kind) =
      area.lists.map fun head => ⟨(pages head).map .counted, .completed⟩ :=
    List.map_congr_left fun head member => checkFreeList_events (sound head member).1 (sound head member).2
  rw [runs, Run.chain_of_completed]
  · rw [List.flatMap_map, List.map_flatMap]
  · intro run member
    rcases List.mem_map.mp member with ⟨head, _, rfl⟩
    rfl

/-- Lists that are gone through without a line are sound. -/
theorem sound_of_clean (clean : (Run.chain (area.lists.map (memory.checkFreeList zone kind))).Clean Counts) :
    Exists fun pages : Nat -> List Nat => forall head, head ∈ area.lists ->
      SoundList memory.lists memory.lruOffset head (pages head) ∧
        forall page, page ∈ pages head -> memory.Placed zone page := by
  refine ⟨fun head => (memory.walkFreeList zone kind head).events.filterMap ZoneEvent.page, fun head member => ?_⟩
  have walked := checkFreeList_clean.mp (Run.clean_chain.mp clean _ (List.mem_map_of_mem member))
  rcases walkFreeList_clean.mp walked with ⟨pages, sound, placed⟩
  have same : (memory.walkFreeList zone kind head).events.filterMap ZoneEvent.page = pages := by
    rw [walkFreeList_events sound placed, List.filterMap_map]
    exact List.filterMap_some
  subst same
  exact ⟨sound, placed⟩

/-- Nothing is printed about an area exactly if it is consistent. -/
theorem checkFreeArea_silent : (memory.checkFreeArea zone kind area).Clean (fun _ => False) <->
    memory.Consistent zone area := by
  constructor
  · intro clean
    simp only [checkFreeArea] at clean
    cases ended : (Run.chain (area.lists.map (memory.checkFreeList zone kind))).ending with
    | raised error =>
        rw [ended] at clean
        cases clean.1
    | completed =>
        cases read : area.expected with
        | error error =>
            rw [ended, read] at clean
            cases clean.1
        | ok expected =>
            rw [ended, read] at clean
            rcases List.forall_mem_append.mp clean.2 with ⟨silent, agrees⟩
            have counts : (Run.chain (area.lists.map (memory.checkFreeList zone kind))).Clean Counts := by
              refine ⟨ended, fun event member => ?_⟩
              rw [Counts, Option.eq_none_iff_forall_ne_some]
              intro line shown
              exact silent line (List.mem_filterMap.mpr ⟨event, member, shown⟩)
            rcases sound_of_clean counts with ⟨pages, sound⟩
            refine ⟨pages, sound, read.trans (congrArg Except.ok ?_)⟩
            rw [chain_checkFreeList sound, List.filterMap_map] at agrees
            by_contra differs
            refine agrees (.mismatch kind area.address expected
              (((area.lists.flatMap pages).filterMap (ZoneEvent.page ∘ .counted)).length : Nat)) ?_
            rw [if_pos]
            · exact List.mem_singleton_self _
            · intro same
              refine differs ?_
              rw [← same]
              exact congrArg (fun pages : List Nat => (pages.length : Int)) List.filterMap_some
  · rintro ⟨pages, sound, read⟩
    simp only [checkFreeArea, chain_checkFreeList sound, read]
    have nothing : ((area.lists.flatMap pages).map ZoneEvent.counted).filterMap ZoneEvent.shown = [] := by
      rw [List.filterMap_map]
      exact List.filterMap_eq_nil_iff.mpr fun page _ => rfl
    have all : ((area.lists.flatMap pages).map ZoneEvent.counted).filterMap ZoneEvent.page =
        area.lists.flatMap pages := by
      rw [List.filterMap_map]
      exact List.filterMap_some
    rw [nothing, all, if_neg (not_not.mpr rfl)]
    exact ⟨rfl, fun line member => List.not_mem_nil member⟩

/-- The check of the free pages of a zone ends without an exception and without a line exactly if
all lists of free pages are sound, every page on them belongs to the zone, and their numbers are as
recorded. -/
theorem checkFreePages_silent_iff (memory : ZoneMemory) (zone : Zone) :
    memory.checkFreePages zone = ⟨[], .completed⟩ <->
      (forall area, area ∈ zone.freeArea -> memory.Consistent zone area) ∧
        forall cpu, cpu ∈ memory.cpus.cpusOnline -> Exists fun pageset : PerCpuPageset =>
          zone.pageset cpu = .ok pageset ∧ memory.Consistent zone pageset.pcp := by
  have silent : memory.checkFreePages zone = ⟨[], .completed⟩ <->
      (memory.checkFreePages zone).Clean fun _ => False := by
    constructor
    · intro same
      rw [same]
      exact ⟨rfl, fun line member => List.not_mem_nil member⟩
    · rintro ⟨completed, nothing⟩
      rw [← completed, ← List.eq_nil_iff_forall_not_mem.mpr nothing]
  have processors : forall cpu, (memory.checkPcp zone cpu).Clean (fun _ => False) <->
      Exists fun pageset : PerCpuPageset =>
        zone.pageset cpu = .ok pageset ∧ memory.Consistent zone pageset.pcp := by
    intro cpu
    rw [checkPcp]
    cases zone.pageset cpu with
    | error error =>
        constructor
        · intro clean
          cases clean.1
        · rintro ⟨pageset, impossible, _⟩
          cases impossible
    | ok pageset =>
        rw [checkFreeArea_silent]
        exact ⟨fun consistent => ⟨pageset, rfl, consistent⟩, fun ⟨_, same, consistent⟩ =>
          Except.ok.inj same ▸ consistent⟩
  rw [silent, checkFreePages, Run.clean_followedBy, Run.clean_chain, Run.clean_chain, List.forall_mem_map,
    List.forall_mem_map]
  simp only [checkFreeArea_silent, processors]

end ZoneMemory
end Types
end CrashPython

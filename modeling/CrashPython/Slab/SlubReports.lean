import CrashPython.Library.Visits
import CrashPython.Slab.SlubContents

namespace CrashPython
namespace Slab

open Library Types

/-!
# The reports of a pass

At the low print levels a pass reports what it meets on the way.  Some of this
depends on memory only.  An object that is recorded a second time is reported, and
so is a slab that is found a second time.  The free objects of a slab are
compared with the dictionary of recorded objects when the slab is found first.

What is reported is therefore a matter of the actions of the scan and their order.
A report names the processors it comes from; which of two processors it names
first, or at all, depends on the order anyway.  An inconsistency is a report
without these names.
-/

/-- What is wrong, apart from the processors on which it was noticed. -/
inductive SlubInconsistency where
  | objectTwice (cache obj : Nat)
  | slabTwice (cache slab : Nat)
  | freeAndCached (cache slab obj : Nat)
  | other (report : SlubReport)
deriving DecidableEq

namespace SlubReport

/-- The inconsistency that a report is about. -/
def inconsistency : SlubReport -> SlubInconsistency
  | .freelistDuplicate cache obj _ _ => .objectTwice cache obj
  | .slabTwice cache slab _ _ => .slabTwice cache slab
  | .freeAndCached cache slab obj _ => .freeAndCached cache slab obj
  | report => .other report

/-- A report that does not depend on the dictionaries. -/
def Lasting (report : SlubReport) : Prop :=
  report.inconsistency = .other report

end SlubReport

/-- The inconsistency is one of the object. -/
def SlubInconsistency.About (obj : Nat) : SlubInconsistency -> Prop
  | .objectTwice _ found => found = obj
  | .freeAndCached _ _ found => found = obj
  | _ => False

/-- The inconsistencies in some reports. -/
def inconsistencies (reports : List SlubReport) : List SlubInconsistency :=
  reports.map SlubReport.inconsistency

theorem inconsistencies_append (first second : List SlubReport) :
    inconsistencies (first ++ second) = inconsistencies first ++ inconsistencies second :=
  List.map_append

namespace SlabSLUB

variable (system : SlubSystem)

/-! ## The free objects of a slab -/

/-- The walk along the page freelist of a slab. -/
def freelistWalk (slab : SlabSLUB) : List Nat × ChainEnd GdbError :=
  match (system.pages slab.address).freelist with
  | .ok first => chainWalk (freePointer system slab.kmemCache) slab.nrObjects first
  | .error _ => ([], .null)

/-- The reports on free objects that are among the recorded ones. -/
def cachedReports (slab : SlabSLUB) (known : List (Nat × Nat)) (objs : List Nat) :
    List SlubReport :=
  objs.filterMap fun obj => (known.lookup obj).map fun cpu =>
    .freeAndCached slab.kmemCache.address slab.address obj cpu

/-- The report on a page freelist that is too long. -/
def lengthReports (slab : SlabSLUB) (ending : ChainEnd GdbError) : List SlubReport :=
  if ending = .overflow then [.slabOverflow slab.kmemCache.address slab.address] else []

/-- The report on a wrong number of free objects. -/
def countReports (slab : SlabSLUB) (free : Finset Nat) : List SlubReport :=
  if (free.card : Int) ≠ slab.nrFree then
    [.freeCount slab.kmemCache.address slab.address slab.nrFree free.card]
  else []

/-- The reports on the free objects of a slab that depend on memory only. -/
def lastingReports (slab : SlabSLUB) : List SlubReport :=
  lengthReports slab (freelistWalk system slab).2 ++
    countReports slab (freelistWalk system slab).1.toFinset

theorem checkCpuFreelists_reports (slab : SlabSLUB) (obj : Nat) (world : SlubWorld) :
    (checkCpuFreelists slab.kmemCache.address slab.address obj world).reports = world.reports ++
      cachedReports slab (world.tables slab.kmemCache.address).cpuFreelists [obj] := by
  simp only [checkCpuFreelists, cachedReports]
  cases known : (world.tables slab.kmemCache.address).cpuFreelists.lookup obj with
  | none =>
      simp only [List.filterMap_cons, known, Option.map_none, List.filterMap_nil, List.append_nil]
  | some cpu =>
      simp only [List.filterMap_cons, known, Option.map_some, List.filterMap_nil]
      rfl

theorem cachedReports_cons (slab : SlabSLUB) (known : List (Nat × Nat)) (obj : Nat)
    (rest : List Nat) :
    cachedReports slab known (obj :: rest) =
      cachedReports slab known [obj] ++ cachedReports slab known rest := by
  simp only [cachedReports]
  rw [← List.singleton_append, List.filterMap_append]

/-- What the loop of `_do_populate_free` reports. -/
theorem walkFreelist_reports (slab : SlabSLUB) {remaining freelist : Nat} (free : Finset Nat)
    {walk : List Nat × ChainEnd GdbError}
    (walked : chainWalk (freePointer system slab.kmemCache) remaining freelist = walk)
    (readable : forall error, walk.2 ≠ .failed error) (world : SlubWorld) :
    Exists fun after : SlubWorld =>
      (walkFreelist system slab remaining free freelist).run world =
        .ok (free ∪ walk.1.toFinset) after ∧ after.tables = world.tables ∧
      after.reports = world.reports ++
        (cachedReports slab (world.tables slab.kmemCache.address).cpuFreelists walk.1 ++
          lengthReports slab walk.2) := by
  induction remaining generalizing freelist free walk world with
  | zero =>
      simp only [chainWalk] at walked
      simp only [walkFreelist]
      by_cases null : freelist = 0
      · rw [if_pos null] at walked
        rw [if_pos null, ← walked, List.toFinset_nil, Finset.union_empty]
        exact ⟨world, rfl, rfl, (List.append_nil _).symm⟩
      · rw [if_neg null] at walked
        rw [if_neg null, ← walked, List.toFinset_nil, Finset.union_empty]
        exact ⟨_, rfl, rfl, rfl⟩
  | succ remaining inductionHypothesis =>
      simp only [chainWalk] at walked
      simp only [walkFreelist]
      by_cases null : freelist = 0
      · rw [if_pos null] at walked
        rw [if_pos null, ← walked, List.toFinset_nil, Finset.union_empty]
        exact ⟨world, rfl, rfl, (List.append_nil _).symm⟩
      · rw [if_neg null] at walked
        rw [if_neg null]
        cases linked : freePointer system slab.kmemCache freelist with
        | error error =>
            rw [linked] at walked
            exact absurd (walked ▸ rfl) (readable error)
        | ok next =>
            rw [linked] at walked
            subst walked
            let checked := checkCpuFreelists slab.kmemCache.address slab.address freelist world
            have same : checked.tables = world.tables := checkCpuFreelists_tables _ _ _ world
            rcases inductionHypothesis (insert freelist free) rfl readable checked with
              ⟨after, ran, kept, reported⟩
            refine ⟨after, ?_, kept.trans same, ?_⟩
            · rw [List.toFinset_cons, Finset.union_insert, ← Finset.insert_union]
              exact ran
            · rw [reported, same, checkCpuFreelists_reports,
                cachedReports_cons slab _ freelist (chainWalk _ remaining next).1]
              simp only [List.append_assoc]

/-- What `populate_free` reports on a new wrapper. -/
theorem populateFree_reports {slab : SlabSLUB} (fresh : slab.freePopulated = false)
    {free : Finset Nat} (found : freeObjects system slab = .ok free) (world : SlubWorld) :
    (finalState ((populateFree system slab).run world)).reports = world.reports ++
      (cachedReports slab (world.tables slab.kmemCache.address).cpuFreelists
        (freelistWalk system slab).1 ++ lastingReports system slab) := by
  rcases except_bind_ok.mp found with ⟨first, read, gathering⟩
  have there : (system.pages slab.address).freelist = .ok first := fetched_eq_ok (halting_eq_ok read)
  have walk : freelistWalk system slab =
      chainWalk (freePointer system slab.kmemCache) slab.nrObjects first := by
    simp only [freelistWalk]
    rw [there]
  have readable : forall error, (freelistWalk system slab).2 ≠ .failed error := by
    intro error failed
    simp only [gathered] at gathering
    rw [← walk, failed] at gathering
    cases gathering
  rcases walkFreelist_reports system slab ∅ walk.symm readable world with
    ⟨after, ran, kept, reported⟩
  rw [Finset.empty_union] at ran
  have unfolded : (populateFree system slab).run world =
      (walkFreelist system slab slab.nrObjects ∅ first >>= fun free =>
        (if (free.card : Int) ≠ slab.nrFree then
          modify (SlubWorld.prErr
            (.freeCount slab.kmemCache.address slab.address slab.nrFree free.card))
        else pure ⟨⟩) >>= fun _ => get >>= fun final =>
          pure { slab with
            free := free
            error := slab.error || decide (world.reports.length < final.reports.length)
            freePopulated := true }).run world := by
    simp only [populateFree, doPopulateFree]
    rw [fresh, there, if_neg Bool.false_ne_true]
    simp only [bind_assoc]
    rfl
  rw [unfolded, EStateM.run_bind, ran]
  simp only [lastingReports, countReports]
  by_cases mismatch : ((freelistWalk system slab).1.toFinset.card : Int) ≠ slab.nrFree
  · simp only [if_pos mismatch]
    change after.reports ++ _ = _
    rw [reported]
    simp only [List.append_assoc]
  · simp only [if_neg mismatch, List.append_nil]
    exact reported

/-- The free objects that are reported are those that are recorded. -/
theorem mem_cachedReports (slab : SlabSLUB) (known : List (Nat × Nat)) (objs : List Nat)
    (found : SlubInconsistency) :
    found ∈ inconsistencies (cachedReports slab known objs) <->
      Exists fun obj : Nat => obj ∈ objs ∧ obj ∈ known.map Prod.fst ∧
        found = .freeAndCached slab.kmemCache.address slab.address obj := by
  simp only [inconsistencies, cachedReports]
  rw [List.map_filterMap, List.mem_filterMap]
  constructor
  · rintro ⟨obj, member, here⟩
    rw [Option.map_map, Option.map_eq_some_iff] at here
    rcases here with ⟨cpu, recorded, rfl⟩
    exact ⟨obj, member, KmemCacheSLUB.isSome_lookup_iff known obj |>.mp (recorded ▸ rfl), rfl⟩
  · rintro ⟨obj, member, recorded, rfl⟩
    rcases Option.isSome_iff_exists.mp ((KmemCacheSLUB.isSome_lookup_iff known obj).mpr recorded) with
      ⟨cpu, there⟩
    refine ⟨obj, member, ?_⟩
    rw [there]
    rfl

theorem lastingReports_lasting (slab : SlabSLUB) :
    forall report, report ∈ lastingReports system slab -> report.Lasting := by
  intro report member
  simp only [lastingReports, lengthReports, countReports] at member
  rcases List.mem_append.mp member with overlong | miscounted
  · split at overlong
    · rw [List.mem_singleton.mp overlong]
      rfl
    · cases overlong
  · split at miscounted
    · rw [List.mem_singleton.mp miscounted]
      rfl
    · cases miscounted

end SlabSLUB

/-- Reports that do not depend on the dictionaries. -/
theorem mem_inconsistencies_lasting {reports : List SlubReport}
    (lasting : forall report, report ∈ reports -> report.Lasting) (found : SlubInconsistency) :
    found ∈ inconsistencies reports <->
      Exists fun report : SlubReport => report ∈ reports ∧ found = .other report := by
  simp only [inconsistencies]
  rw [List.mem_map]
  constructor
  · rintro ⟨report, member, rfl⟩
    exact ⟨report, member, lasting report member⟩
  · rintro ⟨report, member, rfl⟩
    exact ⟨report, member, lasting report member⟩

namespace KmemCacheSLUB

variable (system : SlubSystem) (cache : KmemCacheSLUB)

/-! ## What an action adds -/

/-- The actions of the scan on the objects of all caches and the reports. -/
def performWorld : ScanAction -> SlubWorld -> SlubWorld
  | .record cpu obj, world => cache.recordObject cpu obj world
  | .resize cpu size, world => world.update cache.address (resized cpu size)
  | .hold slab place, world => finalState ((addPercpuSlub system cache slab place).run world)
  | .report report, world => world.prErr report

theorem world_faithful : Faithful system cache id (performWorld system cache) :=
  ⟨fun _ _ _ => rfl, fun _ _ _ => rfl, fun _ _ _ => rfl, fun _ _ => rfl⟩

/-- What is known of an action of a scan that came to its end. -/
def Examined : ScanAction -> Prop
  | .hold slab _ => SlabSLUB.fromPageObj system slab.address = .ok slab ∧
      Exists fun free : Finset Nat => SlabSLUB.freeObjects system slab = .ok free
  | .report report => report.Lasting
  | _ => True

/-- The object is in the dictionary that the free objects of the slab are compared
with.  The dictionary of the scanned cache has what was recorded, and those of
the other caches do not change. -/
def Cached (start : SlubWorld) (recorded : List Nat) (slab : SlabSLUB) (obj : Nat) : Prop :=
  if slab.kmemCache.address = cache.address then obj ∈ recorded
  else obj ∈ (start.tables slab.kmemCache.address).cpuFreelists.map Prod.fst

/-- The inconsistencies that an action adds after others. -/
def Adds (start : SlubWorld) (before : List ScanAction) (found : SlubInconsistency) :
    ScanAction -> Prop
  | .record _ obj => found = .objectTwice cache.address obj ∧ obj ∈ recordedObjects before
  | .resize _ _ => False
  | .hold slab _ =>
      (slab.address ∈ heldPages before ∧ found = .slabTwice cache.address slab.address) ∨
      (slab.address ∉ heldPages before ∧
        ((Exists fun obj : Nat => obj ∈ (SlabSLUB.freelistWalk system slab).1 ∧
            Cached cache start (recordedObjects before) slab obj ∧
            found = .freeAndCached slab.kmemCache.address slab.address obj) ∨
          Exists fun report : SlubReport => report ∈ SlabSLUB.lastingReports system slab ∧
            found = .other report))
  | .report report => found = .other report

/-- Nothing is in the dictionaries of the cache. -/
structure Blank (world : SlubWorld) : Prop where
  freelists : (world.tables cache.address).cpuFreelists = []
  slabs : (world.tables cache.address).cpuSlabs = []

variable {system cache}

/-- Any faithful view can follow the actions. -/
theorem Faithful.follows {View : Type} {view : SlubWorld -> View}
    {perform : ScanAction -> View -> View} (faithful : Faithful system cache view perform)
    (actions : List ScanAction) (world : SlubWorld) :
    view (performed (performWorld system cache) actions world) =
      performed perform actions (view world) := by
  simp only [performed]
  induction actions generalizing world with
  | nil => rfl
  | cons action rest inductionHypothesis =>
      have shown : view (performWorld system cache action world) = perform action (view world) := by
        cases action with
        | record cpu obj => exact faithful.record cpu obj world
        | resize cpu size => exact faithful.resize cpu size world
        | hold slab place => exact faithful.hold slab place world
        | report report => exact faithful.report report world
      rw [List.foldl_cons, List.foldl_cons, inductionHypothesis, shown]

/-- Entering a slab leaves the recorded objects as they are. -/
theorem update_enterSlab_cpuFreelists (slab : SlabSLUB) (place : CpuPlace) (world : SlubWorld)
    (address : Nat) :
    ((world.update cache.address (enterSlab slab place)).tables address).cpuFreelists =
      (world.tables address).cpuFreelists := by
  by_cases own : address = cache.address
  · rw [own, SlubWorld.update_tables_self]
    rfl
  · rw [SlubWorld.update_tables_ne own]

section Adding

variable {start : SlubWorld} (blank : Blank cache start)

include blank

/-- The dictionaries after some actions. -/
theorem keys_performed (actions : List ScanAction) (key : Nat) :
    (key ∈ ((performed (performWorld system cache) actions start).tables
        cache.address).cpuFreelists.map Prod.fst <-> key ∈ recordedObjects actions) ∧
      (key ∈ ((performed (performWorld system cache) actions start).tables
        cache.address).cpuSlabs.map Prod.fst <-> key ∈ heldPages actions) := by
  have follows := (percpu_faithful system cache).follows actions start
  have freelists := congrArg SlubTables.cpuFreelists follows
  have slabs := congrArg SlubTables.cpuSlabs follows
  have members := mem_performed actions (percpuView cache start) key
  rw [← freelists, ← slabs] at members
  simp only [percpuView, percpu, blank.freelists, blank.slabs, List.map_nil, List.not_mem_nil,
    false_or] at members
  exact members

/-- The dictionary that free objects are compared with. -/
theorem cached_iff (before : List ScanAction) (slab : SlabSLUB) (obj : Nat) :
    obj ∈ ((performed (performWorld system cache) before start).tables
        slab.kmemCache.address).cpuFreelists.map Prod.fst <->
      Cached cache start (recordedObjects before) slab obj := by
  simp only [Cached]
  by_cases own : slab.kmemCache.address = cache.address
  · rw [if_pos own, own]
    exact (keys_performed blank before obj).1
  · have follows := (others_faithful system cache).follows before start
    have idle : forall tables : Nat -> SlubTables,
        performed (fun _ : ScanAction => id) before tables = tables :=
      fun _ => List.foldl_fixed before
    rw [idle] at follows
    rw [if_neg own, tables_of_othersView follows own]

omit blank in
/-- Recording an object adds an inconsistency if the object has been recorded before. -/
theorem recordObject_adds {before : List ScanAction} {world : SlubWorld} {cpu obj : Nat}
    (known : ((world.tables cache.address).cpuFreelists.lookup obj).isSome = true <->
      obj ∈ recordedObjects before) (found : SlubInconsistency) :
    found ∈ inconsistencies (cache.recordObject cpu obj world).reports <->
      found ∈ inconsistencies world.reports ∨ Adds system cache start before found (.record cpu obj) := by
  simp only [recordObject]
  simp only [Adds]
  cases recorded : (world.tables cache.address).cpuFreelists.lookup obj with
  | none =>
      rw [recorded] at known
      have absent : obj ∉ recordedObjects before :=
        fun member => Bool.false_ne_true (known.mpr member)
      exact (or_iff_left fun again => absent again.2).symm
  | some other =>
      rw [recorded] at known
      change found ∈ inconsistencies (world.reports ++ [_]) <-> _
      rw [inconsistencies_append, List.mem_append]
      apply or_congr_right
      change found ∈ [SlubInconsistency.objectTwice cache.address obj] <-> _
      rw [List.mem_singleton, and_iff_left (known.mp rfl)]

omit blank in
/-- Holding a slab adds one inconsistency if the slab has been held before, and otherwise
those of its objects and of its freelist. -/
theorem addPercpuSlub_adds {before : List ScanAction} {world : SlubWorld} {slab : SlabSLUB}
    {place : CpuPlace} (examined : Examined system (.hold slab place))
    (known : ((world.tables cache.address).cpuSlabs.lookup slab.address).isSome = true <->
      slab.address ∈ heldPages before)
    (compared : forall obj, obj ∈ (world.tables slab.kmemCache.address).cpuFreelists.map Prod.fst <->
      Cached cache start (recordedObjects before) slab obj) (found : SlubInconsistency) :
    found ∈ inconsistencies (finalState ((addPercpuSlub system cache slab place).run world)).reports <->
      found ∈ inconsistencies world.reports ∨ Adds system cache start before found (.hold slab place) := by
  rcases examined with ⟨made, free, read⟩
  simp only [Adds]
  cases held : (world.tables cache.address).cpuSlabs.lookup slab.address with
  | some other =>
      rw [held] at known
      rw [addPercpuSlub_known held]
      change found ∈ inconsistencies (world.reports ++ [_]) <-> _
      rw [inconsistencies_append, List.mem_append]
      apply or_congr_right
      change found ∈ [SlubInconsistency.slabTwice cache.address slab.address] <-> _
      rw [List.mem_singleton, and_iff_right (known.mp rfl),
        or_iff_left fun new => new.1 (known.mp rfl)]
  | none =>
      rw [held] at known
      have new : slab.address ∉ heldPages before :=
        fun member => Bool.false_ne_true (known.mpr member)
      have fresh := (SlabSLUB.fromPageObj_ok system made).2.1
      rw [addPercpuSlub_new place held, SlabSLUB.populateFree_reports system fresh read,
        update_enterSlab_cpuFreelists, SlubWorld.update_reports, inconsistencies_append,
        List.mem_append]
      apply or_congr_right
      have first : ¬ (slab.address ∈ heldPages before ∧
          found = .slabTwice cache.address slab.address) :=
        fun again => new again.1
      rw [inconsistencies_append, List.mem_append, SlabSLUB.mem_cachedReports,
        mem_inconsistencies_lasting (SlabSLUB.lastingReports_lasting system slab),
        or_iff_right first, and_iff_right new]
      simp only [compared]

/-- Each action adds its inconsistencies. -/
theorem performWorld_adds {before : List ScanAction} {action : ScanAction}
    (examined : Examined system action) (found : SlubInconsistency) :
    found ∈ inconsistencies (performWorld system cache action
        (performed (performWorld system cache) before start)).reports <->
      found ∈ inconsistencies (performed (performWorld system cache) before start).reports ∨
        Adds system cache start before found action := by
  have keys := fun key => @keys_performed system cache start blank before key
  have compared := fun slab obj => @cached_iff system cache start blank before slab obj
  generalize performed (performWorld system cache) before start = world at keys compared
  cases action with
  | record cpu obj =>
      have known := isSome_lookup_iff (world.tables cache.address).cpuFreelists obj
      rw [(keys obj).1] at known
      exact recordObject_adds known found
  | resize cpu size => exact (or_iff_left id).symm
  | hold slab place =>
      have known := isSome_lookup_iff (world.tables cache.address).cpuSlabs slab.address
      rw [(keys slab.address).2] at known
      exact addPercpuSlub_adds examined known (compared slab) found
  | report report =>
      change found ∈ inconsistencies (world.reports ++ [report]) <-> _
      rw [inconsistencies_append, List.mem_append]
      apply or_congr_right
      change found ∈ [report.inconsistency] <-> _
      rw [List.mem_singleton, examined]
      rfl

/-- What is reported in the course of some actions. -/
theorem performed_adds {actions : List ScanAction}
    (examined : forall action, action ∈ actions -> Examined system action)
    (found : SlubInconsistency) :
    found ∈ inconsistencies (performed (performWorld system cache) actions start).reports <->
      found ∈ inconsistencies start.reports ∨
        SomeTime (fun before action => Adds system cache start before found action) actions := by
  let gathered : SlubWorld -> Prop := fun world => found ∈ inconsistencies world.reports
  change gathered (performed (performWorld system cache) actions start) <-> gathered start ∨ _
  apply gathered_iff
  intro before action after split
  apply performWorld_adds blank
  apply examined
  rw [split]
  exact List.mem_append_right _ List.mem_cons_self

end Adding

/-! ## When an inconsistency is added -/

/-- The object that an action records. -/
def recordedObject : ScanAction -> Option Nat
  | .record _ obj => some obj
  | _ => none

/-- The slab that an action finds. -/
def heldPage : ScanAction -> Option Nat
  | .hold slab _ => some slab.address
  | _ => none

theorem recordedObjects_eq (actions : List ScanAction) :
    actions.filterMap recordedObject = recordedObjects actions :=
  rfl

theorem heldPages_eq (actions : List ScanAction) :
    actions.filterMap heldPage = heldPages actions :=
  rfl

section When

variable (system cache) (start : SlubWorld) (actions : List ScanAction)

/-- An object is reported that is recorded twice. -/
theorem someTime_objectTwice (address obj : Nat) :
    SomeTime (fun before action => Adds system cache start before (.objectTwice address obj) action)
        actions <->
      2 ≤ (recordedObjects actions).count obj ∧ address = cache.address := by
  rw [← recordedObjects_eq, ← someTime_again, ← someTime_and_const]
  apply someTime_congr
  intro before action after _
  rw [recordedObjects_eq]
  cases action with
  | record cpu found =>
      simp only [Adds, recordedObject, SlubInconsistency.objectTwice.injEq, Option.some.injEq]
      constructor
      · rintro ⟨⟨own, rfl⟩, member⟩
        exact ⟨⟨rfl, member⟩, own⟩
      · rintro ⟨⟨rfl, member⟩, own⟩
        exact ⟨⟨own, rfl⟩, member⟩
  | resize cpu size => simp only [Adds, recordedObject, reduceCtorEq, false_and]
  | hold slab place =>
      simp only [Adds, recordedObject, reduceCtorEq, and_false, exists_false, or_false, false_and]
  | report report => simp only [Adds, recordedObject, reduceCtorEq, false_and]

/-- A slab is reported that is found twice. -/
theorem someTime_slabTwice (address page : Nat) :
    SomeTime (fun before action => Adds system cache start before (.slabTwice address page) action)
        actions <->
      2 ≤ (heldPages actions).count page ∧ address = cache.address := by
  rw [← heldPages_eq, ← someTime_again, ← someTime_and_const]
  apply someTime_congr
  intro before action after _
  rw [heldPages_eq]
  cases action with
  | record cpu found => simp only [Adds, heldPage, reduceCtorEq, false_and]
  | resize cpu size => simp only [Adds, heldPage, reduceCtorEq, false_and]
  | hold slab place =>
      simp only [Adds, heldPage, reduceCtorEq, and_false, exists_false, or_false,
        SlubInconsistency.slabTwice.injEq, Option.some.injEq]
      constructor
      · rintro ⟨member, own, rfl⟩
        exact ⟨⟨rfl, member⟩, own⟩
      · rintro ⟨⟨rfl, member⟩, own⟩
        exact ⟨member, own, rfl⟩
  | report report => simp only [Adds, heldPage, reduceCtorEq, false_and]

variable {actions} (examined : forall action, action ∈ actions -> Examined system action)

include examined

/-- What does not depend on the dictionaries is reported by the script, or when a
slab is examined. -/
theorem someTime_other (report : SlubReport) :
    SomeTime (fun before action => Adds system cache start before (.other report) action) actions <->
      .report report ∈ actions ∨ Exists fun slab : SlabSLUB =>
        SlabSLUB.fromPageObj system slab.address = .ok slab ∧ slab.address ∈ heldPages actions ∧
          report ∈ SlabSLUB.lastingReports system slab := by
  constructor
  · rintro ⟨before, action, after, rfl, added⟩
    have inside : action ∈ before ++ action :: after := List.mem_append_right _ List.mem_cons_self
    cases action with
    | record cpu obj => exact absurd added.1 nofun
    | resize cpu size => exact False.elim added
    | hold slab place =>
        rcases added with ⟨_, impossible⟩ | ⟨_, ⟨obj, _, _, impossible⟩ | ⟨other, member, same⟩⟩
        · cases impossible
        · cases impossible
        · cases same
          refine .inr ⟨slab, (examined _ inside).1, ?_, member⟩
          rw [← heldPages_eq]
          exact List.mem_filterMap.mpr ⟨_, inside, rfl⟩
    | report other =>
        cases added
        exact .inl inside
  · rintro (member | ⟨slab, made, held, member⟩)
    · rcases List.append_of_mem member with ⟨before, after, split⟩
      exact ⟨before, _, after, split, rfl⟩
    · rw [← heldPages_eq, ← someTime_first] at held
      rcases held with ⟨before, action, after, split, here, first⟩
      have inside : action ∈ actions := by
        rw [split]
        exact List.mem_append_right _ List.mem_cons_self
      rw [heldPages_eq] at first
      cases action with
      | record cpu obj => cases here
      | resize cpu size => cases here
      | hold found place =>
          have same : found.address = slab.address := Option.some.inj here
          have again := (examined _ inside).1
          rw [same, made] at again
          cases again
          exact ⟨before, _, after, split, .inr ⟨first, .inr ⟨report, member, rfl⟩⟩⟩
      | report other => cases here

/-- A free object is reported when its slab is found first, if it is in the
dictionary by then. -/
theorem someTime_freeAndCached (address page obj : Nat) :
    SomeTime (fun before action =>
        Adds system cache start before (.freeAndCached address page obj) action) actions <->
      Exists fun slab : SlabSLUB => SlabSLUB.fromPageObj system page = .ok slab ∧
        slab.kmemCache.address = address ∧ obj ∈ (SlabSLUB.freelistWalk system slab).1 ∧
        SomeTime (fun before action => heldPage action = some page ∧ page ∉ heldPages before ∧
          Cached cache start (recordedObjects before) slab obj) actions := by
  constructor
  · rintro ⟨before, action, after, rfl, added⟩
    have inside : action ∈ before ++ action :: after := List.mem_append_right _ List.mem_cons_self
    cases action with
    | record cpu found => exact absurd added.1 nofun
    | resize cpu size => exact False.elim added
    | hold slab place =>
        rcases added with ⟨_, impossible⟩ | ⟨first, ⟨found, free, cached, same⟩ | ⟨_, _, impossible⟩⟩
        · cases impossible
        · cases same
          exact ⟨slab, (examined _ inside).1, rfl, free, before, _, after, rfl, rfl, first, cached⟩
        · cases impossible
    | report other => cases added
  · rintro ⟨slab, made, own, free, before, action, after, split, here, first, cached⟩
    have inside : action ∈ actions := by
      rw [split]
      exact List.mem_append_right _ List.mem_cons_self
    cases action with
    | record cpu found => cases here
    | resize cpu size => cases here
    | hold found place =>
        have same : found.address = page := Option.some.inj here
        have again := (examined _ inside).1
        rw [same, made] at again
        cases again
        refine ⟨before, _, after, split, .inr ⟨same ▸ first, .inl ⟨obj, free, cached, ?_⟩⟩⟩
        rw [own, same]
    | report other => cases here

end When

/-! ## The actions of the scripts -/

section Actions

variable {outcome : KmemCacheSLUB -> Except Halt PUnit} {level : Nat}

theorem reportIf_takes (condition : Prop) [Decidable condition] {report : SlubReport}
    (lasting : report.Lasting) :
    Takes (Examined system)
      (if condition then .act (.report report) else pure ⟨⟩ : SlubScript PUnit) := by
  split
  · exact Takes.act lasting
  · exact Takes.returns _

theorem frozenScript_takes (slab : SlabSLUB) (expected : Nat) (place : FrozenPlace) :
    Takes (Examined system) (SlabSLUB.frozenScript system slab expected place) :=
  Takes.reads fun _ => reportIf_takes _ rfl

theorem headerScript_takes (least : Nat) (slab : SlabSLUB) :
    Takes (Examined system) (headerScript outcome level least slab) := by
  simp only [headerScript]
  split
  · exact Takes.read _
  · exact Takes.returns _

theorem printScript_takes (fill : Bool) (slab : SlabSLUB) :
    Takes (Examined system) (printScript system level fill slab) := by
  simp only [printScript]
  split
  · exact Takes.reads fun _ => Takes.returns _
  · exact Takes.returns _

theorem holdScript_takes (page : Nat) (place : CpuPlace) :
    Takes (Examined system) (holdScript system true page place) := by
  constructor
  intro slab ended action member
  have held := holdScript_ok ended
  rw [holdScript_actions ended, List.mem_singleton] at member
  rw [member]
  refine ⟨?_, held.2 rfl⟩
  rw [(SlabSLUB.fromPageObj_ok system held.1).1]
  exact held.1

theorem locklessScript_takes (cpu remaining nrFree freelist : Nat) :
    Takes (Examined system) (locklessScript system cache cpu remaining nrFree freelist) := by
  induction remaining generalizing nrFree freelist with
  | zero =>
      simp only [locklessScript]
      split
      · exact Takes.returns _
      · apply Takes.andThen
        · exact Takes.act rfl
        · exact fun _ => Takes.returns _
  | succ remaining inductionHypothesis =>
      simp only [locklessScript]
      split
      · exact Takes.returns _
      · apply Takes.andThen
        · exact Takes.act trivial
        · exact fun _ => Takes.reads fun next => inductionHypothesis _ next

theorem freelistScript_takes (sizes cpu : Nat) (cpuSlab : KmemCacheCpu) :
    Takes (Examined system) (freelistScript system cache sizes true cpu cpuSlab) := by
  have populated : Takes (Examined system) (populateScript system cache cpu cpuSlab) := by
    apply Takes.reads
    intro freelist
    split
    · exact Takes.returns _
    · apply Takes.reads
      intro page
      exact Takes.reads fun nrObjects => locklessScript_takes cpu nrObjects 0 freelist
  apply populated.andThen
  intro size
  exact Takes.reads fun _ => Takes.act trivial

theorem activeScript_takes (cpu : Nat) (cpuSlab : KmemCacheCpu) :
    Takes (Examined system) (activeScript system outcome level true cpu cpuSlab) := by
  apply Takes.reads
  intro page
  split
  · exact Takes.returns _
  · apply (holdScript_takes page _).andThen
    intro slab
    apply (headerScript_takes 2 slab).andThen
    intro _
    exact (frozenScript_takes slab 1 _).andThen fun _ => printScript_takes true slab

theorem visitScript_takes (cpu page : Nat) :
    Takes (Examined system) (visitScript system outcome level true cpu page) := by
  apply (holdScript_takes page _).andThen
  intro slab
  apply Takes.reads
  intro pages
  apply (headerScript_takes 3 slab).andThen
  intro _
  apply (printScript_takes true slab).andThen
  intro _
  exact (frozenScript_takes slab 1 _).andThen fun _ => Takes.returns pages

theorem partialScript_takes (cpu fuel page : Nat) (expected last : Int) :
    Takes (Examined system)
      (partialScript system cache outcome level true cpu fuel page expected last) := by
  induction fuel generalizing page expected last with
  | zero => exact Takes.read _
  | succ fuel inductionHypothesis =>
      simp only [partialScript]
      split
      · exact reportIf_takes _ rfl
      · apply (visitScript_takes cpu page).andThen
        intro pages
        refine Takes.andThen (reportIf_takes _ (by rfl)) fun _ => ?_
        exact Takes.reads fun next => inductionHypothesis next _ _

/-- The script of a processor takes examined actions. -/
theorem cpuScript_takes (sizes fuel cpu : Nat) :
    Takes (Examined system) (cpuScript system cache sizes outcome level fuel true cpu) := by
  have headed : Takes (Examined system) (headScript system cache sizes outcome level true cpu) := by
    apply Takes.reads
    intro cpuSlab
    apply (freelistScript_takes sizes cpu cpuSlab).andThen
    intro _
    exact (activeScript_takes cpu cpuSlab).andThen fun _ => Takes.read _
  apply headed.andThen
  intro first
  simp only [tailScript]
  split
  · exact Takes.returns _
  · exact Takes.reads fun expected => partialScript_takes cpu fuel first expected (-1)

theorem visitNodeScript_takes (place : NodePlace) (listHead : Nat) :
    Takes (Examined system) (visitNodeScript system cache outcome level place listHead) := by
  apply Takes.reads
  intro slab
  apply (headerScript_takes 3 slab).andThen
  intro _
  apply (printScript_takes false slab).andThen
  intro _
  exact (frozenScript_takes slab 0 _).andThen fun _ => Takes.returns slab

theorem endScript_takes (ending : Ending ListError) : Takes (Examined system) (endScript ending) := by
  cases ending with
  | completed => exact Takes.returns _
  | raised error => exact Takes.read _

theorem nodePartialScript_takes (nid : Nat) (node : KmemCacheNode) (nrFreeObjs : Int) :
    Takes (Examined system)
      (nodePartialScript system cache outcome level nid node nrFreeObjs) := by
  apply Takes.andThen (Takes.fold _ _)
  · exact fun counted => (endScript_takes _).andThen fun _ => Takes.returns counted
  · exact fun counted listHead =>
      (visitNodeScript_takes _ listHead).andThen fun _ => Takes.returns _

theorem nodeFullScript_takes (nid : Nat) (node : KmemCacheNode) :
    Takes (Examined system) (nodeFullScript system cache outcome level nid node) := by
  apply Takes.andThen (Takes.fold _ _)
  · exact fun counted => (endScript_takes _).andThen fun _ => Takes.returns counted
  · exact fun counted listHead =>
      (visitNodeScript_takes _ listHead).andThen fun _ => Takes.returns _

theorem nidScript_takes (totals : NodeTotals) (nid : Nat) :
    Takes (Examined system) (nidScript system cache outcome level totals nid) := by
  apply Takes.reads
  intro node
  cases node with
  | none => exact Takes.returns totals
  | some node =>
      apply Takes.reads
      intro nrSlabs
      apply Takes.reads
      intro nrObjs
      apply Takes.reads
      intro expected
      apply (nodePartialScript_takes nid node totals.nrFreeObjs).andThen
      intro counted
      refine Takes.andThen (reportIf_takes _ (by rfl)) fun _ => ?_
      apply (nodeFullScript_takes nid node).andThen
      intro found
      exact Takes.andThen (reportIf_takes _ (by rfl)) fun _ => Takes.returns _

/-- The walk along the lists of the nodes takes examined actions. -/
theorem finishScript_takes (nrFreeObjs nrPercpu : Int) :
    Takes (Examined system) (finishScript system cache outcome level nrFreeObjs nrPercpu) := by
  apply Takes.reads
  intro nids
  apply (Takes.fold nidScript_takes _).andThen
  intro totals
  exact Takes.andThen (reportIf_takes _ (by rfl)) fun _ => Takes.returns _

end Actions

end KmemCacheSLUB
end Slab
end CrashPython

import CrashPython.Slab.SlubScript

namespace CrashPython
namespace Slab

open Library Types

/-!
# The scan enacts its script

Every part of the scan takes the actions of its script and ends as the script
does.  This holds in any view of the caches that is faithful to the actions.  A
view may leave reports out; then a header may change the other caches and set
the flag `processed` of this one, as long as the view does not show it.
-/

theorem halting_eq_ok {Value : Type} {read : Except SlabException Value} {value : Value}
    (success : halting read = .ok value) : read = .ok value :=
  mapError_eq_ok success

theorem mem_of_lookup {Value : Type} {entries : List (Nat × Value)} {key : Nat} {value : Value}
    (found : entries.lookup key = some value) : (key, value) ∈ entries := by
  rcases List.lookup_eq_some_iff.mp found with ⟨before, after, split, first⟩
  rw [split]
  exact List.mem_append_right before List.mem_cons_self

namespace SlabSLUB

variable (system : SlubSystem)

theorem alike_refl (slab : SlabSLUB) : Alike slab slab :=
  ⟨rfl, rfl, rfl, rfl⟩

theorem gathered_cons (free : Finset Nat) (obj : Nat) (walk : List Nat × ChainEnd GdbError) :
    gathered free (obj :: walk.1, walk.2) = gathered (insert obj free) walk := by
  have same : free ∪ (obj :: walk.1).toFinset = insert obj free ∪ walk.1.toFinset := by
    rw [List.toFinset_cons, Finset.union_insert, Finset.insert_union]
  simp only [gathered]
  rw [same]

theorem checkCpuFreelists_tables (cache slab obj : Nat) (world : SlubWorld) :
    (checkCpuFreelists cache slab obj world).tables = world.tables := by
  simp only [checkCpuFreelists]
  split
  · rfl
  · rfl

theorem freeObjects_alike {slab other : SlabSLUB} (alike : Alike slab other) :
    freeObjects system other = freeObjects system slab := by
  simp only [freeObjects]
  rw [alike.address, alike.kmemCache, alike.nrObjects]

/-- The loop of `_do_populate_free` only adds reports. -/
theorem walkFreelist_enacts (slab : SlabSLUB) (tables : Nat -> SlubTables) (remaining : Nat)
    (free : Finset Nat) (freelist : Nat) :
    Enacts SlubWorld.tables (fun _ : ScanAction => id) (fun world => world.tables = tables)
      (.reading (gathered free
        (chainWalk (freePointer system slab.kmemCache) remaining freelist)))
      (fun outcome value world => value = outcome ∧ world.tables = tables)
      (walkFreelist system slab remaining free freelist) := by
  induction remaining generalizing free freelist with
  | zero =>
      simp only [chainWalk, walkFreelist]
      by_cases null : freelist = 0
      · simp only [null, if_true, gathered, List.toFinset_nil, Finset.union_empty]
        exact Enacts.returns fun world start => ⟨rfl, start⟩
      · simp only [null, if_false, gathered, List.toFinset_nil, Finset.union_empty]
        exact fun world start => ⟨free, _, rfl, rfl, rfl, start⟩
  | succ remaining inductionHypothesis =>
      simp only [chainWalk, walkFreelist]
      by_cases null : freelist = 0
      · simp only [null, if_true, gathered, List.toFinset_nil, Finset.union_empty]
        exact Enacts.returns fun world start => ⟨rfl, start⟩
      · simp only [null, if_false]
        cases linked : freePointer system slab.kmemCache freelist with
        | error error =>
            exact fun world start => ⟨_, rfl, checkCpuFreelists_tables _ _ _ world⟩
        | ok next =>
            simp only [gathered_cons]
            change Enacts _ _ _ _ _ (modify _ >>= fun _ => walkFreelist system slab remaining _ next)
            refine Enacts.quietly ?_ ?_ (inductionHypothesis (insert freelist free) next)
            · exact fun world start => checkCpuFreelists_tables _ _ _ world
            · exact fun world start => (checkCpuFreelists_tables _ _ _ world).trans start

/-- `_do_populate_free` finds the free objects, and only adds reports. -/
theorem doPopulateFree_enacts (slab : SlabSLUB) (tables : Nat -> SlubTables) :
    Enacts SlubWorld.tables (fun _ : ScanAction => id) (fun world => world.tables = tables)
      (.reading (freeObjects system slab))
      (fun outcome value world => Alike slab value ∧ value.free = outcome ∧ world.tables = tables)
      (doPopulateFree system slab) := by
  simp only [doPopulateFree, freeObjects]
  rw [Script.reading_bind]
  apply Enacts.looks
  intro before start
  apply Enacts.reads
  intro freelist read
  rw [← Script.bind_pure (Script.reading (gathered _ _))]
  apply Enacts.andThen ((walkFreelist_enacts system slab tables _ _ _).weaken
    (fun world current => current.2) fun outcome value world finished => finished)
  intro outcome free ended
  apply Enacts.knowing fun world between => And.left between
  intro same
  subst same
  split
  · exact fun world start => ⟨_, _, rfl, rfl, ⟨rfl, rfl, rfl, rfl⟩, rfl, start.2⟩
  · exact fun world start => ⟨_, world, rfl, rfl, ⟨rfl, rfl, rfl, rfl⟩, rfl, start.2⟩

/-- `populate_free` does the same to a new wrapper. -/
theorem populateFree_enacts {slab : SlabSLUB} (fresh : slab.freePopulated = false)
    (tables : Nat -> SlubTables) :
    Enacts SlubWorld.tables (fun _ : ScanAction => id) (fun world => world.tables = tables)
      (.reading (freeObjects system slab))
      (fun outcome value world => Alike slab value ∧ value.free = outcome ∧ world.tables = tables)
      (populateFree system slab) := by
  simp only [populateFree]
  rw [fresh, ← Script.bind_pure (Script.reading _)]
  apply (doPopulateFree_enacts system slab tables).andThen
  intro outcome populated ended
  apply Enacts.returns
  intro world between
  rcases between with ⟨alike, found, same⟩
  exact ⟨⟨alike.address, alike.kmemCache, alike.nrObjects, alike.nrInuse⟩, found, same⟩

end SlabSLUB

namespace KmemCacheSLUB

variable (system : SlubSystem) (cache : KmemCacheSLUB)

/-- Write a size. -/
def resized (cpu size : Nat) (tables : SlubTables) : SlubTables :=
  { tables with cpuFreelistsSizes := tables.cpuFreelistsSizes.set cpu size }

/-- A view of the caches in which the actions of the scan can be followed. -/
structure Faithful {View : Type} (view : SlubWorld -> View)
    (perform : ScanAction -> View -> View) : Prop where
  record : forall cpu obj world,
    view (cache.recordObject cpu obj world) = perform (.record cpu obj) (view world)
  resize : forall cpu size world,
    view (world.update cache.address (resized cpu size)) = perform (.resize cpu size) (view world)
  hold : forall slab place world,
    view (finalState ((addPercpuSlub system cache slab place).run world)) =
      perform (.hold slab place) (view world)
  report : forall report world, view (world.prErr report) = perform (.report report) (view world)

/-- What is said of the caches concerns the other caches and whether this one is
processed. -/
def Elsewhere (aside : (Nat -> SlubTables) -> Prop) : Prop :=
  forall tables others, (forall address, address ≠ cache.address -> others address = tables address) ->
    (others cache.address).processed = (tables cache.address).processed -> aside tables -> aside others

/-- What holds in the course of a scan. -/
structure Steady (sizes : Nat) (fill : Bool) (aside : (Nat -> SlubTables) -> Prop)
    (world : SlubWorld) : Prop where
  places : (world.tables cache.address).cpuFreelistsSizes.length = sizes
  examined : fill = true -> forall page place, (page, place) ∈ (world.tables cache.address).cpuSlabs ->
    SlabSLUB.HoldsWell system page
  known : fill = false -> (world.tables cache.address).cpuSlabs ≠ []
  others : aside world.tables

variable {system cache} {sizes : Nat} {fill : Bool} {aside : (Nat -> SlubTables) -> Prop}

namespace Steady

/-- A scan is steady at its start, where it fills in the attributes if no slab is
known. -/
theorem initially {world : SlubWorld} (others : aside world.tables) :
    Steady system cache (world.tables cache.address).cpuFreelistsSizes.length
      (world.tables cache.address).cpuSlabs.isEmpty aside world := by
  refine ⟨rfl, ?_, ?_, others⟩
  · intro filling page place member
    rw [List.isEmpty_iff.mp filling] at member
    cases member
  · intro checking none
    rw [none] at checking
    cases checking

theorem prErr {world : SlubWorld} (steady : Steady system cache sizes fill aside world)
    (report : SlubReport) : Steady system cache sizes fill aside (world.prErr report) :=
  ⟨steady.places, steady.examined, steady.known, steady.others⟩

/-- The scan stays steady under an update that keeps the dictionary of slabs. -/
theorem update (elsewhere : Elsewhere cache aside) {world : SlubWorld}
    (steady : Steady system cache sizes fill aside world) {change : SlubTables -> SlubTables}
    (sameSlabs : forall tables, (change tables).cpuSlabs = tables.cpuSlabs)
    (sameSizes : forall tables,
      (change tables).cpuFreelistsSizes.length = tables.cpuFreelistsSizes.length)
    (sameFlag : forall tables, (change tables).processed = tables.processed) :
    Steady system cache sizes fill aside (world.update cache.address change) := by
  constructor
  · rw [SlubWorld.update_tables_self, sameSizes, steady.places]
  · rw [SlubWorld.update_tables_self, sameSlabs]
    exact steady.examined
  · rw [SlubWorld.update_tables_self, sameSlabs]
    exact steady.known
  · apply elsewhere world.tables _ _ _ steady.others
    · exact fun address different => SlubWorld.update_tables_ne different change world
    · rw [SlubWorld.update_tables_self, sameFlag]

theorem record (elsewhere : Elsewhere cache aside) {world : SlubWorld}
    (steady : Steady system cache sizes fill aside world) (cpu obj : Nat) :
    Steady system cache sizes fill aside (cache.recordObject cpu obj world) := by
  simp only [recordObject]
  split
  · exact steady.prErr _
  · exact steady.update elsewhere (fun _ => rfl) (fun _ => rfl) (fun _ => rfl)

/-- The scan stays steady when a slab is entered that can be examined. -/
theorem enter (elsewhere : Elsewhere cache aside) {world after : SlubWorld}
    (steady : Steady system cache sizes fill aside world) {slab : SlabSLUB} {place : CpuPlace}
    (examined : SlabSLUB.HoldsWell system slab.address)
    (entered : after.tables = (world.update cache.address (enterSlab slab place)).tables) :
    Steady system cache sizes fill aside after := by
  constructor
  · rw [entered, SlubWorld.update_tables_self]
    exact steady.places
  · intro filling page found member
    rw [entered, SlubWorld.update_tables_self] at member
    rcases List.mem_append.mp member with earlier | new
    · exact steady.examined filling page found earlier
    · rw [List.mem_singleton, Prod.mk.injEq] at new
      rw [new.1]
      exact examined
  · intro checking
    rw [entered, SlubWorld.update_tables_self]
    simp only [enterSlab, ne_eq, List.append_eq_nil_iff, List.cons_ne_self, and_false,
      not_false_eq_true]
  · rw [entered]
    apply elsewhere world.tables _ _ _ steady.others
    · exact fun address different => SlubWorld.update_tables_ne different _ world
    · rw [SlubWorld.update_tables_self]
      rfl

end Steady

/-- A procedure that starts with a look at the attributes of the cache. -/
theorem tables_bind {Value : Type} (body : SlubTables -> SlubM Value) (world : SlubWorld) :
    (cache.tables >>= body).run world = (body (world.tables cache.address)).run world :=
  rfl

/-- A slab that is known already is reported. -/
theorem addPercpuSlub_known {slab : SlabSLUB} {place other : CpuPlace} {world : SlubWorld}
    (known : (world.tables cache.address).cpuSlabs.lookup slab.address = some other) :
    (addPercpuSlub system cache slab place).run world =
      .ok slab (world.prErr (.slabTwice cache.address slab.address place other)) := by
  simp only [addPercpuSlub]
  rw [tables_bind, known]
  rfl

/-- A slab that is not known is entered and examined. -/
theorem addPercpuSlub_new {slab : SlabSLUB} (place : CpuPlace) {world : SlubWorld}
    (unknown : (world.tables cache.address).cpuSlabs.lookup slab.address = none) :
    (addPercpuSlub system cache slab place).run world =
      (SlabSLUB.populateFree system slab).run
        (world.update cache.address (enterSlab slab place)) := by
  simp only [addPercpuSlub]
  rw [tables_bind, unknown]
  rfl

section Parts

variable {View : Type} {view : SlubWorld -> View} {perform : ScanAction -> View -> View}

/-- A procedure that looks at the attributes of the cache. -/
theorem consults {Outcome Value : Type} {ready : SlubWorld -> Prop} {script : SlubScript Outcome}
    {done : Outcome -> Value -> SlubWorld -> Prop} {body : SlubTables -> SlubM Value}
    (continues : forall known, Enacts view perform
      (fun world => world.tables cache.address = known ∧ ready world) script done (body known)) :
    Enacts view perform ready script done (cache.tables >>= body) :=
  fun world start => continues _ world ⟨rfl, start⟩

/-- A message. -/
theorem noted (ready : SlubWorld -> Prop) (faithful : Faithful system cache view perform)
    (report : SlubReport) (kept : forall world, ready world -> ready (world.prErr report)) :
    Enacts view perform ready (.act (.report report) : SlubScript PUnit) (fun _ _ => ready)
      (modify (SlubWorld.prErr report)) :=
  Enacts.does (fun world _ => faithful.report report world) kept

/-- A message, where a condition asks for one. -/
theorem notedIf {condition : Prop} [Decidable condition] (ready : SlubWorld -> Prop)
    (faithful : Faithful system cache view perform) (report : SlubReport)
    (kept : forall world, ready world -> ready (world.prErr report)) :
    Enacts view perform ready
      (if condition then .act (.report report) else pure ⟨⟩ : SlubScript PUnit)
      (fun _ _ => ready) (if condition then modify (SlubWorld.prErr report) else pure ⟨⟩) := by
  split
  · exact noted ready faithful report kept
  · exact Enacts.returns fun world start => start

variable (faithful : Faithful system cache view perform) (elsewhere : Elsewhere cache aside)

include faithful elsewhere

theorem recordObject_enacts (cpu obj : Nat) :
    Enacts view perform (Steady system cache sizes fill aside)
      (.act (.record cpu obj) : SlubScript PUnit) (fun _ _ => Steady system cache sizes fill aside)
      (modify (cache.recordObject cpu obj)) :=
  Enacts.does (fun world _ => faithful.record cpu obj world)
    fun _ start => start.record elsewhere cpu obj

theorem walkCpuFreelist_enacts (cpu remaining nrFree freelist : Nat) :
    Enacts view perform (Steady system cache sizes fill aside)
      (locklessScript system cache cpu remaining nrFree freelist)
      (fun outcome value world => value = outcome ∧ Steady system cache sizes fill aside world)
      (walkCpuFreelist system cache cpu remaining nrFree freelist) := by
  induction remaining generalizing nrFree freelist with
  | zero =>
      simp only [locklessScript, walkCpuFreelist]
      by_cases null : freelist = 0
      · rw [if_pos null, if_pos null]
        exact Enacts.returns fun world start => ⟨rfl, start⟩
      · rw [if_neg null, if_neg null]
        apply (noted (Steady system cache sizes fill aside) faithful _ fun _ start => start.prErr _).andThen
        intro middle found ended
        exact Enacts.returns fun world start => ⟨rfl, start⟩
  | succ remaining inductionHypothesis =>
      simp only [locklessScript, walkCpuFreelist]
      by_cases null : freelist = 0
      · rw [if_pos null, if_pos null]
        exact Enacts.returns fun world start => ⟨rfl, start⟩
      · rw [if_neg null, if_neg null]
        apply (recordObject_enacts faithful elsewhere cpu freelist).andThen
        intro middle found ended
        apply Enacts.reads
        intro next read
        exact inductionHypothesis (nrFree + 1) next

theorem populateCpuFreelist_enacts (cpu : Nat) (cpuSlab : KmemCacheCpu) :
    Enacts view perform (Steady system cache sizes fill aside)
      (populateScript system cache cpu cpuSlab)
      (fun outcome value world => value = outcome ∧ Steady system cache sizes fill aside world)
      (populateCpuFreelist system cache cpu cpuSlab) := by
  apply Enacts.reads
  intro freelist read
  by_cases null : freelist = 0
  · rw [if_pos null, if_pos null]
    exact Enacts.returns fun world start => ⟨rfl, start⟩
  · rw [if_neg null, if_neg null]
    apply Enacts.reads
    intro page found
    apply Enacts.reads
    intro nrObjects counted
    exact walkCpuFreelist_enacts faithful elsewhere cpu nrObjects 0 freelist

omit faithful elsewhere in
/-- Looking up the index of a processor. -/
theorem getSize_enacts (cpu : Nat) :
    Enacts view perform (Steady system cache sizes fill aside) (.reading (indexed sizes cpu))
      (fun _ _ => Steady system cache sizes fill aside) (cache.getSize cpu) := by
  intro world start
  have places := start.places
  simp only [getSize, tables, indexed]
  by_cases inside : cpu < sizes
  · rw [if_pos inside]
    refine ⟨⟨⟩, world, ?_, rfl, start⟩
    change (if cpu < (world.tables cache.address).cpuFreelistsSizes.length then _ else _ :
      SlubM PUnit).run world = _
    rw [places, if_pos inside]
    rfl
  · rw [if_neg inside]
    refine ⟨world, ?_, rfl⟩
    change (if cpu < (world.tables cache.address).cpuFreelistsSizes.length then _ else _ :
      SlubM PUnit).run world = _
    rw [places, if_neg inside]
    rfl

/-- Writing the size of the chain of a processor. -/
theorem setSize_enacts (cpu size : Nat) :
    Enacts view perform (Steady system cache sizes fill aside)
      (.reading (indexed sizes cpu) >>= fun _ => .act (.resize cpu size))
      (fun _ _ => Steady system cache sizes fill aside) (cache.setSize cpu size) := by
  intro world start
  have places := start.places
  simp only [setSize, tables, indexed]
  by_cases inside : cpu < sizes
  · rw [if_pos inside]
    refine ⟨⟨⟩, world.update cache.address (resized cpu size), ?_,
      faithful.resize cpu size world, ?_⟩
    · change (if cpu < (world.tables cache.address).cpuFreelistsSizes.length then _ else _ :
        SlubM PUnit).run world = _
      rw [places, if_pos inside]
      rfl
    · exact start.update elsewhere (fun _ => rfl) (fun _ => List.length_set) (fun _ => rfl)
  · rw [if_neg inside]
    refine ⟨world, ?_, rfl⟩
    change (if cpu < (world.tables cache.address).cpuFreelistsSizes.length then _ else _ :
      SlubM PUnit).run world = _
    rw [places, if_neg inside]
    rfl

/-- The chain of a processor. -/
theorem scanFreelist_enacts (cpu : Nat) (cpuSlab : KmemCacheCpu) :
    Enacts view perform (Steady system cache sizes fill aside)
      (freelistScript system cache sizes fill cpu cpuSlab)
      (fun _ _ => Steady system cache sizes fill aside)
      (scanFreelist system cache fill cpu cpuSlab) := by
  simp only [freelistScript, scanFreelist]
  cases fill with
  | false => exact getSize_enacts cpu
  | true =>
      simp only [if_true]
      apply (populateCpuFreelist_enacts faithful elsewhere cpu cpuSlab).andThen
      intro size value ended
      apply Enacts.knowing fun world between => And.left between
      intro same
      subst same
      apply (setSize_enacts faithful elsewhere cpu value).weaken
      · exact fun world between => between.2
      · exact fun outcome value world finished => finished

/-- A slab that a processor holds. -/
theorem holdSlab_enacts (page : Nat) (place : CpuPlace) :
    Enacts view perform (Steady system cache sizes fill aside) (holdScript system fill page place)
      (fun outcome value world => SlabSLUB.Alike outcome value ∧
        (fill = false -> value.freePopulated = false) ∧
        Steady system cache sizes fill aside world ∧
        (world.tables cache.address).cpuSlabs ≠ [])
      (holdSlab system cache fill page place) := by
  simp only [holdScript, holdSlab]
  apply Enacts.reads
  intro slab made
  have new := SlabSLUB.fromPageObj_ok system (halting_eq_ok made)
  cases fill with
  | false =>
      exact Enacts.returns fun world start =>
        ⟨slab.alike_refl, fun _ => new.2.1, start, start.known rfl⟩
  | true =>
      simp only [if_true]
      intro world start
      have shown := faithful.hold slab place world
      cases known : (world.tables cache.address).cpuSlabs.lookup slab.address with
      | some other =>
          rcases start.examined rfl _ _ (mem_of_lookup known) with ⟨same, free, again, found⟩
          rw [new.1, halting_eq_ok made, Except.ok.injEq] at again
          subst again
          rw [addPercpuSlub_known known] at shown
          rw [found]
          exact ⟨slab, _, addPercpuSlub_known known, shown, slab.alike_refl, nofun, start.prErr _,
            List.ne_nil_of_mem (mem_of_lookup known)⟩
      | none =>
          have run := SlabSLUB.populateFree_enacts system new.2.1 _
            (world.update cache.address (enterSlab slab place)) rfl
          rw [addPercpuSlub_new place known] at shown ⊢
          cases found : SlabSLUB.freeObjects system slab with
          | error error =>
              rw [found] at run
              rcases run with ⟨after, ran, entered⟩
              rw [ran] at shown ⊢
              exact ⟨after, rfl, shown⟩
          | ok free =>
              rw [found] at run
              rcases run with ⟨value, after, ran, entered, alike, gathered, same⟩
              rw [ran] at shown ⊢
              refine ⟨value, after, rfl, shown, alike, nofun, ?_, ?_⟩
              · apply start.enter elsewhere _ entered
                rw [new.1]
                exact ⟨slab, free, halting_eq_ok made, found⟩
              · rw [same, SlubWorld.update_tables_self]
                simp only [enterSlab, ne_eq, List.append_eq_nil_iff, List.cons_ne_self, and_false,
                  not_false_eq_true]

omit elsewhere in
/-- `warn_frozen`. -/
theorem warnFrozen_enacts {ready : SlubWorld -> Prop}
    (kept : forall report world, ready world -> ready (world.prErr report))
    {slab value : SlabSLUB} (alike : slab.Alike value) (expected : Nat) (place : FrozenPlace) :
    Enacts view perform ready (SlabSLUB.frozenScript system slab expected place) (fun _ _ => ready)
      (SlabSLUB.warnFrozen system value expected place) := by
  simp only [SlabSLUB.frozenScript, SlabSLUB.warnFrozen]
  rw [alike.address, alike.kmemCache]
  apply Enacts.reads
  intro frozen read
  exact notedIf ready faithful _ (kept _)

end Parts

/-- The portion of the attributes that the scan fills in, without the sizes of
the chains. -/
def percpu (tables : SlubTables) : SlubTables :=
  { tables with
    nodeSlabs := []
    cpuFreelistsSizes := List.replicate tables.cpuFreelistsSizes.length 0
    processed := false }

/-- The scan is steady, and some slab is known. -/
def Holding (system : SlubSystem) (cache : KmemCacheSLUB) (sizes : Nat) (fill : Bool)
    (aside : (Nat -> SlubTables) -> Prop) (world : SlubWorld) : Prop :=
  Steady system cache sizes fill aside world ∧ (world.tables cache.address).cpuSlabs ≠ []

theorem Holding.prErr (report : SlubReport) (world : SlubWorld)
    (holding : Holding system cache sizes fill aside world) :
    Holding system cache sizes fill aside (world.prErr report) :=
  ⟨holding.1.prErr report, holding.2⟩

/-- Being in the course of a scan depends on the portion it fills in. -/
theorem Holding.of_percpu {world after : SlubWorld}
    (holding : Holding system cache sizes fill aside world) (others : aside after.tables)
    (same : percpu (after.tables cache.address) = percpu (world.tables cache.address)) :
    Holding system cache sizes fill aside after := by
  have slabs := congrArg SlubTables.cpuSlabs same
  have places := congrArg (fun tables => tables.cpuFreelistsSizes.length) same
  change (after.tables cache.address).cpuSlabs = (world.tables cache.address).cpuSlabs at slabs
  simp only [percpu, List.length_replicate] at places
  refine ⟨⟨?_, ?_, ?_, others⟩, ?_⟩
  · rw [places]
    exact holding.1.places
  · rw [slabs]
    exact holding.1.examined
  · rw [slabs]
    exact holding.1.known
  · rw [slabs]
    exact holding.2

section Scan

variable (system cache)
variable {View : Type} (view : SlubWorld -> View) (perform : ScanAction -> View -> View)
variable (header : SlabSLUB -> SlubM PUnit) (level : Nat)
variable (outcome : KmemCacheSLUB -> Except Halt PUnit) (aside : (Nat -> SlubTables) -> Prop)

/-- A view for a scan at a print level.  Headers and printed objects change
nothing that it shows. -/
structure Shows : Prop where
  faithful : Faithful system cache view perform
  elsewhere : Elsewhere cache aside
  printed : 4 ≤ level -> forall slab world,
    view (finalState ((SlabSLUB.populateFree system slab).run world)) = view world
  headed : 2 ≤ level -> forall slab, system.caches slab.kmemCache.address = some slab.kmemCache ->
    forall filled : SlubTables, filled.cpuSlabs ≠ [] ->
      Enacts view perform
        (fun world => aside world.tables ∧ percpu (world.tables cache.address) = filled)
        (.reading (outcome slab.kmemCache))
        (fun _ _ world => aside world.tables ∧ percpu (world.tables cache.address) = filled)
        (header slab)

end Scan

/-- Reading free objects once more does what reading does, where it does not show, and keeps
whatever depends on the dictionaries. -/
theorem populateFree_reads {View : Type} {view : SlubWorld -> View}
    {perform : ScanAction -> View -> View} {invariant : SlubWorld -> Prop}
    (unchanged : forall world after : SlubWorld, after.tables = world.tables -> invariant world ->
      invariant after)
    (printed : forall slab world,
      view (finalState ((SlabSLUB.populateFree system slab).run world)) = view world)
    {slab value : SlabSLUB} (alike : slab.Alike value) (fresh : value.freePopulated = false) :
    Enacts view perform invariant (.reading (SlabSLUB.freeObjects system slab))
      (fun _ _ => invariant) (SlabSLUB.populateFree system value) := by
  intro world start
  have run := SlabSLUB.populateFree_enacts system fresh _ world rfl
  have shown := printed value world
  rw [SlabSLUB.freeObjects_alike system alike] at run
  cases found : SlabSLUB.freeObjects system slab with
  | error error =>
      rw [found] at run
      rcases run with ⟨after, ran, same⟩
      rw [ran] at shown ⊢
      exact ⟨after, rfl, shown⟩
  | ok free =>
      rw [found] at run
      rcases run with ⟨populated, after, ran, _, _, _, same⟩
      rw [ran] at shown ⊢
      exact ⟨populated, after, rfl, shown, unchanged world after same start⟩

section Rounds

variable {View : Type} {view : SlubWorld -> View} {perform : ScanAction -> View -> View}
variable {header : SlabSLUB -> SlubM PUnit} {level : Nat}
variable {outcome : KmemCacheSLUB -> Except Halt PUnit}
variable (shows : Shows system cache view perform header level outcome aside)

include shows

/-- The header of a slab. -/
theorem header_enacts {slab value : SlabSLUB} (alike : slab.Alike value)
    (registered : system.caches slab.kmemCache.address = some slab.kmemCache) {least : Nat}
    (printing : 2 ≤ least) :
    Enacts view perform (Holding system cache sizes fill aside)
      (headerScript outcome level least slab)
      (fun _ _ => Holding system cache sizes fill aside)
      (if least ≤ level then header value else pure ⟨⟩) := by
  simp only [headerScript]
  by_cases headed : least ≤ level
  · rw [if_pos headed, if_pos headed]
    intro world start
    rw [← alike.kmemCache] at registered ⊢
    have kept : forall after : SlubWorld, aside after.tables ∧
        percpu (after.tables cache.address) = percpu (world.tables cache.address) ->
        Holding system cache sizes fill aside after :=
      fun after finished => start.of_percpu finished.1 finished.2
    apply ((shows.headed (printing.trans headed) value registered
      (percpu (world.tables cache.address)) start.2).weaken (fun _ same => same)
      (fun _ _ after finished => kept after finished)) world
    exact ⟨start.1.others, rfl⟩
  · rw [if_neg headed, if_neg headed]
    exact Enacts.returns fun world start => start

/-- Reading the free objects of a new wrapper once more. -/
theorem populateFree_shows (printing : 4 ≤ level) {slab value : SlabSLUB} (alike : slab.Alike value)
    (fresh : value.freePopulated = false) :
    Enacts view perform (Holding system cache sizes fill aside)
      (.reading (SlabSLUB.freeObjects system slab)) (fun _ _ => Holding system cache sizes fill aside)
      (SlabSLUB.populateFree system value) := by
  apply populateFree_reads ?_ (shows.printed printing) alike fresh
  intro world after same start
  apply start.of_percpu
  · rw [same]
    exact start.1.others
  · rw [same]

/-- Printing the objects of a slab. -/
theorem printObjects_enacts {slab value : SlabSLUB} (alike : slab.Alike value)
    (readable : fill = true -> Exists fun free : Finset Nat =>
      SlabSLUB.freeObjects system slab = .ok free)
    (fresh : fill = false -> value.freePopulated = false) :
    Enacts view perform (Holding system cache sizes fill aside) (printScript system level fill slab)
      (fun _ _ => Holding system cache sizes fill aside)
      (if 4 ≤ level then discard (SlabSLUB.printObjects system value) else pure ⟨⟩) := by
  simp only [printScript, SlabSLUB.printObjects]
  by_cases printing : 4 ≤ level
  · rw [if_pos printing]
    cases fill with
    | false =>
        rw [if_pos ⟨printing, rfl⟩]
        exact (populateFree_shows shows printing alike (fresh rfl)).discarding
    | true =>
        rw [if_neg fun both => Bool.noConfusion both.2]
        cases populated : value.freePopulated with
        | true =>
            simp only [SlabSLUB.populateFree]
            rw [populated]
            exact Enacts.returns fun world start => start
        | false =>
            rcases readable rfl with ⟨free, found⟩
            have reading : Enacts view perform (Holding system cache sizes true aside) _ _ _ :=
              (populateFree_shows shows printing alike populated).discarding
            rw [found] at reading
            exact reading
  · rw [if_neg printing, if_neg fun both => printing both.1]
    exact Enacts.returns fun world start => start

omit shows in
/-- What is known of a slab when the script has gone on past it. -/
theorem holdScript_ok {page : Nat} {place : CpuPlace} {slab : SlabSLUB}
    (ended : (holdScript system fill page place).ending = .ok slab) :
    SlabSLUB.fromPageObj system page = .ok slab ∧
      (fill = true -> Exists fun free : Finset Nat =>
        SlabSLUB.freeObjects system slab = .ok free) := by
  simp only [holdScript] at ended
  rcases Script.bind_ending_ok.mp ended with ⟨made, read, rest⟩
  cases fill with
  | false =>
      cases rest
      exact ⟨halting_eq_ok read, nofun⟩
  | true =>
      rcases Script.bind_ending_ok.mp rest with ⟨_, _, examined⟩
      rcases Script.bind_ending_ok.mp examined with ⟨free, found, same⟩
      cases same
      exact ⟨halting_eq_ok read, fun _ => ⟨free, found⟩⟩

/-- The active slab of a processor. -/
theorem scanActive_enacts (cpu : Nat) (cpuSlab : KmemCacheCpu) :
    Enacts view perform (Steady system cache sizes fill aside)
      (activeScript system outcome level fill cpu cpuSlab)
      (fun _ _ => Steady system cache sizes fill aside)
      (scanActive system cache header level fill cpu cpuSlab) := by
  apply Enacts.reads
  intro page read
  by_cases null : page = 0
  · rw [if_pos null, if_pos null]
    exact Enacts.returns fun world start => start
  · rw [if_neg null, if_neg null]
    apply (holdSlab_enacts shows.faithful shows.elsewhere page (.slab cpu)).andThen
    intro slab value ended
    have held := holdScript_ok ended
    have registered := (SlabSLUB.fromPageObj_ok system held.1).2.2
    apply Enacts.given
    intro alike
    apply Enacts.given
    intro fresh
    apply (header_enacts shows alike registered (Nat.le_refl 2)).andThen
    intro _ _ _
    apply (warnFrozen_enacts shows.faithful Holding.prErr alike 1 (.cpu (.slab cpu))).andThen
    intro _ _ _
    exact (printObjects_enacts shows alike held.2 fresh).weaken (fun _ start => start)
      fun _ _ _ finished => finished.1

/-- One slab of the partial list of a processor. -/
theorem visitPartial_enacts (cpu page : Nat) :
    Enacts view perform (Steady system cache sizes fill aside)
      (visitScript system outcome level fill cpu page)
      (fun pages value world => value = pages ∧ Steady system cache sizes fill aside world)
      (visitPartial system cache header level fill cpu page) := by
  apply (holdSlab_enacts shows.faithful shows.elsewhere page (.onPartial cpu)).andThen
  intro slab value ended
  have held := holdScript_ok ended
  have registered := (SlabSLUB.fromPageObj_ok system held.1).2.2
  apply Enacts.given
  intro alike
  apply Enacts.given
  intro fresh
  apply Enacts.reads
  intro pages read
  apply (header_enacts shows alike registered (Nat.le_succ 2)).andThen
  intro _ _ _
  apply (printObjects_enacts shows alike held.2 fresh).andThen
  intro _ _ _
  apply (warnFrozen_enacts shows.faithful Holding.prErr alike 1 (.cpu (.onPartial cpu))).andThen
  intro _ _ _
  exact Enacts.returns fun world start => ⟨rfl, start.1⟩

/-- The partial list of a processor. -/
theorem walkPartial_enacts (cpu fuel page : Nat) (expected last : Int) :
    Enacts view perform (Steady system cache sizes fill aside)
      (partialScript system cache outcome level fill cpu fuel page expected last)
      (fun _ _ => Steady system cache sizes fill aside)
      (walkPartial system cache header level fill cpu fuel page expected last) := by
  induction fuel generalizing page expected last with
  | zero => exact Enacts.raises rfl
  | succ fuel inductionHypothesis =>
      simp only [partialScript, walkPartial]
      by_cases null : page = 0
      · rw [if_pos null, if_pos null]
        exact notedIf _ shows.faithful _ fun _ start => start.prErr _
      · rw [if_neg null, if_neg null]
        apply (visitPartial_enacts shows cpu page).andThen
        intro pages value ended
        apply Enacts.given
        intro same
        subst same
        apply (notedIf (Steady system cache sizes fill aside) shows.faithful
          (.pagesUnexpected cache.address cpu page value expected)
          fun _ start => start.prErr _).andThen
        intro _ _ _
        apply Enacts.reads
        intro next read
        exact inductionHypothesis next (value - 1) value

/-- The loop body of `_process_percpu`. -/
theorem scanCpu_enacts (fuel cpu : Nat) :
    Enacts view perform (Steady system cache sizes fill aside)
      (cpuScript system cache sizes outcome level fuel fill cpu)
      (fun _ _ => Steady system cache sizes fill aside)
      (scanCpu system cache header level fuel fill cpu) := by
  simp only [cpuScript, headScript]
  simp only [Script.bind_assoc]
  apply Enacts.reads
  intro cpuSlab read
  apply (scanFreelist_enacts shows.faithful shows.elsewhere cpu cpuSlab).andThen
  intro _ _ _
  apply (scanActive_enacts shows cpu cpuSlab).andThen
  intro _ _ _
  apply Enacts.reads
  intro first found
  simp only [tailScript]
  by_cases null : first = 0
  · rw [if_pos null, if_pos null]
    exact Enacts.returns fun world start => start
  · rw [if_neg null, if_neg null]
    apply Enacts.reads
    intro expected counted
    exact walkPartial_enacts shows cpu fuel first expected (-1)

/-- The scan of the processors. -/
theorem scan_enacts (fuel : Nat) :
    Enacts view perform (Steady system cache sizes fill aside)
      (scanScript system cache sizes outcome level fuel fill)
      (fun _ _ => Steady system cache sizes fill aside)
      (system.cpusOnline.forM (scanCpu system cache header level fuel fill)) :=
  Enacts.loop fun cpu _ => scanCpu_enacts shows fuel cpu

/-- `_process_percpu`. -/
theorem processPercpu_enacts (fuel : Nat) (start : Nat -> SlubTables) (others : aside start) :
    Enacts view perform (fun world => world.tables = start)
      (percpuScript system cache outcome level fuel (start cache.address))
      (fun _ _ world => Steady system cache (start cache.address).cpuFreelistsSizes.length
        (start cache.address).cpuSlabs.isEmpty aside world)
      (processPercpu system cache header level fuel) := by
  have initially : forall world : SlubWorld, world.tables = start ->
      Steady system cache (start cache.address).cpuFreelistsSizes.length
        (start cache.address).cpuSlabs.isEmpty aside world := by
    rintro world rfl
    exact Steady.initially others
  apply consults
  intro found
  have same : forall world : SlubWorld, world.tables cache.address = found ∧ world.tables = start ->
      found = start cache.address := by
    rintro world ⟨rfl, rfl⟩
    rfl
  apply Enacts.knowing same
  rintro rfl
  refine Enacts.starting (fun world ready => And.right ready) ?_
  simp only [percpuScript]
  by_cases skipped : (start cache.address).cpuSlabs.isEmpty = false ∧ level = 0
  · simp only [if_pos skipped]
    exact Enacts.returns initially
  · simp only [if_neg skipped]
    exact (scan_enacts shows fuel).starting initially

end Rounds

end KmemCacheSLUB
end Slab
end CrashPython

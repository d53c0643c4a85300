import CrashPython.Slab.SlubReports

namespace CrashPython
namespace Slab

open Library Types

/-!
# The order of the processors

The online processors are visited one after the other.  Each visit first records
the objects on the chain of its processor, and then finds the slabs that the
processor holds.  The free objects of a slab are compared with what has been
recorded by then, so that an object is missed that is on the chain of a processor
that comes later.

Everything else that a pass reports is the same in all orders.
-/

/-- The same memory with the online processors visited in another order. -/
def SlubSystem.visiting (system : SlubSystem) (order : List Nat) : SlubSystem :=
  { system with cpusOnline := order }

namespace KmemCacheSLUB

variable (system : SlubSystem) (cache : KmemCacheSLUB)

/-- What a pass of `process_all` reports, if it comes to its end. -/
def passReports (fuel level : Nat) (world : SlubWorld) : Option (List SlubReport) :=
  match (processAll system cache fuel level).run { world with reports := [] } with
  | .ok _ after => some after.reports
  | .error _ _ => none

/-- The objects on the chain of a processor, as far as it is walked. -/
def locklessObjects (cpu : Nat) : List Nat :=
  match cache.cpuSlab cpu with
  | .error _ => []
  | .ok cpuSlab =>
      match lockless system cache cpuSlab with
      | .error _ => []
      | .ok walk => walk.1

/-- The slab is the active slab of the processor, or on its partial list. -/
def HoldsSlab (cpu page : Nat) : Prop :=
  Exists fun cpuSlab : KmemCacheCpu => cache.cpuSlab cpu = .ok cpuSlab ∧
    ((cpuSlab.page = .ok page ∧ page ≠ 0) ∨
      Exists fun first : Nat => cpuSlab.onPartial = .ok first ∧ OnChain (nextLink system) page first)

/-- The slab is held by an online processor. -/
def Held (page : Nat) : Prop :=
  Exists fun cpu : Nat => cpu ∈ system.cpusOnline ∧ HoldsSlab system cache cpu page

/-- The object is on the page freelist of a slab that an online processor holds. -/
def OnHeldFreelist (obj : Nat) : Prop :=
  Exists fun page : Nat => Exists fun slab : SlabSLUB => Exists fun first : Nat =>
    Held system cache page ∧ SlabSLUB.fromPageObj system page = .ok slab ∧
      (system.pages page).freelist = .ok first ∧
      OnChain (SlabSLUB.freePointer system slab.kmemCache) obj first

/-- The object is on the chain of an online processor. -/
def OnLocklessFreelist (obj : Nat) : Prop :=
  Exists fun cpu : Nat => Exists fun cpuSlab : KmemCacheCpu => Exists fun first : Nat =>
    cpu ∈ system.cpusOnline ∧ cache.cpuSlab cpu = .ok cpuSlab ∧ cpuSlab.freelist = .ok first ∧
      OnChain (SlabSLUB.freePointer system cache) obj first

/-- In every order of the processors the pass comes to its end and reports each
object that is both on the page freelist of a slab of a processor and on the chain
of a processor, and what it reports does not depend on the order. -/
structure CrossChecks (fuel level : Nat) (world : SlubWorld) : Prop where
  complete : forall order, order.Perm system.cpusOnline ->
    Exists fun reports : List SlubReport =>
      passReports (system.visiting order) cache fuel level world = some reports
  noticed : forall order reports, order.Perm system.cpusOnline ->
    passReports (system.visiting order) cache fuel level world = some reports ->
    forall obj, OnHeldFreelist system cache obj -> OnLocklessFreelist system cache obj ->
      Exists fun found : SlubInconsistency => found ∈ inconsistencies reports ∧ found.About obj
  alike : forall order other reports others, order.Perm system.cpusOnline ->
    other.Perm system.cpusOnline ->
    passReports (system.visiting order) cache fuel level world = some reports ->
    passReports (system.visiting other) cache fuel level world = some others ->
    forall found, found ∈ inconsistencies reports <-> found ∈ inconsistencies others

/-- The object can be noticed: it is recorded twice, or it is among the free objects
that are read of a held slab and in the dictionary of the cache of that slab. -/
def Noticeable (world : SlubWorld) (obj : Nat) : Prop :=
  2 ≤ (system.cpusOnline.flatMap (locklessObjects system cache)).count obj ∨
    Exists fun page : Nat => Exists fun slab : SlabSLUB => Held system cache page ∧
      SlabSLUB.fromPageObj system page = .ok slab ∧
      obj ∈ (SlabSLUB.freelistWalk system slab).1 ∧
      Cached cache world (system.cpusOnline.flatMap (locklessObjects system cache)) slab obj

/-- A free object that is read of a held slab of the cache, and that is on the chain of
some processor, is on the chain of every processor that holds the slab.  Objects that
the walks do not come to can be noticed otherwise. -/
structure CrossCheckable (world : SlubWorld) : Prop where
  own : forall holder page slab obj, holder ∈ system.cpusOnline -> HoldsSlab system cache holder page ->
    SlabSLUB.fromPageObj system page = .ok slab -> slab.kmemCache.address = cache.address ->
    obj ∈ (SlabSLUB.freelistWalk system slab).1 ->
    obj ∈ system.cpusOnline.flatMap (locklessObjects system cache) ->
    obj ∈ locklessObjects system cache holder
  noticeable : forall obj, OnHeldFreelist system cache obj -> OnLocklessFreelist system cache obj ->
    Noticeable system cache world obj

/-! ## The scripts in another order -/

section Visiting

variable (order : List Nat)

theorem locklessScript_visiting (cpu remaining nrFree freelist : Nat) :
    locklessScript (system.visiting order) cache cpu remaining nrFree freelist =
      locklessScript system cache cpu remaining nrFree freelist := by
  induction remaining generalizing nrFree freelist with
  | zero => rfl
  | succ remaining inductionHypothesis =>
      unfold locklessScript
      simp only [inductionHypothesis]
      rfl

theorem partialScript_visiting (outcome : KmemCacheSLUB -> Except Halt PUnit) (level : Nat)
    (fill : Bool) (cpu fuel page : Nat) (expected last : Int) :
    partialScript (system.visiting order) cache outcome level fill cpu fuel page expected last =
      partialScript system cache outcome level fill cpu fuel page expected last := by
  induction fuel generalizing page expected last with
  | zero => rfl
  | succ fuel inductionHypothesis =>
      unfold partialScript
      simp only [inductionHypothesis]
      rfl

/-- The script of a processor does not depend on the order. -/
theorem cpuScript_visiting (sizes : Nat) (outcome : KmemCacheSLUB -> Except Halt PUnit)
    (level fuel : Nat) (fill : Bool) (cpu : Nat) :
    cpuScript (system.visiting order) cache sizes outcome level fuel fill cpu =
      cpuScript system cache sizes outcome level fuel fill cpu := by
  unfold cpuScript headScript tailScript freelistScript populateScript
  simp only [locklessScript_visiting, partialScript_visiting]
  rfl

end Visiting

/-- The actions of a scan that visits the processors in the given order. -/
def scanActions (fuel level : Nat) (order : List Nat) : List ScanAction :=
  order.flatMap fun cpu =>
    (cpuScript system cache order.length noHeader level fuel true cpu).actions

/-- The portion of the attributes that such a scan fills in. -/
def scannedTables (fuel level : Nat) (order : List Nat) : SlubTables :=
  performed performPercpu (scanActions system cache fuel level order)
    (percpu (freshTables (system.visiting order)))

/-- The script of what comes after such a scan. -/
def finishAfter (fuel level : Nat) (order : List Nat) : SlubScript (Option Totals) :=
  let scanned := scannedTables system cache fuel level order
  finishScript system cache noHeader level (scanned.cpuSlabsFree + scanned.cpuFreelists.length)
    scanned.cpuSlabs.length

/-- The script of every online processor comes to its end. -/
def ScanEnds (fuel level : Nat) : Prop :=
  forall cpu, cpu ∈ system.cpusOnline ->
    (cpuScript system cache system.cpusOnline.length noHeader level fuel true cpu).ending = .ok ⟨⟩

variable {system cache} {fuel level : Nat} {world : SlubWorld}

theorem scanActions_examined (ends : ScanEnds system cache fuel level) :
    forall action, action ∈ scanActions system cache fuel level system.cpusOnline ->
      Examined system action := by
  intro action member
  rcases List.mem_flatMap.mp member with ⟨cpu, online, taken⟩
  exact (cpuScript_takes _ fuel cpu).fits ⟨⟩ (ends cpu online) action taken

/-! ## The reports of a pass -/

/-- The scan in the view of all objects and reports. -/
theorem world_shows (header : SlabSLUB -> SlubM PUnit) (quiet : level < 2) :
    Shows system cache id (performWorld system cache) header level noHeader (fun _ => True) where
  faithful := world_faithful system cache
  elsewhere := fun _ _ _ _ start => start
  printed := fun printing => absurd printing (by omega)
  headed := fun printing => absurd printing (by omega)

/-- The actions on the reports alone. -/
def performReports : ScanAction -> List SlubReport -> List SlubReport
  | .report report, reports => reports ++ [report]
  | _, reports => reports

/-- The lists of the nodes in the view of the reports. -/
theorem reports_nodeShows (header : SlabSLUB -> SlubM PUnit) (quiet : level < 2)
    (filled : SlubTables) :
    NodeShows system cache SlubWorld.reports performReports header level noHeader
      (fun tables => percpu (tables cache.address) = filled) where
  report := fun _ _ => rfl
  placed := fun _ _ => rfl
  kept := by
    intro world places start
    rw [SlubWorld.update_tables_self]
    exact start
  printed := fun printing => absurd printing (by omega)
  headed := fun printing => absurd printing (by omega)

/-- Reports that do not depend on the dictionaries. -/
theorem mem_performReports {actions : List ScanAction}
    (examined : forall action, action ∈ actions -> Examined system action)
    (reports : List SlubReport) (found : SlubInconsistency) :
    found ∈ inconsistencies (performed performReports actions reports) <->
      found ∈ inconsistencies reports ∨
        Exists fun report : SlubReport => .report report ∈ actions ∧ found = .other report := by
  unfold performed
  induction actions generalizing reports with
  | nil => simp only [List.foldl_nil, List.not_mem_nil, false_and, exists_false, or_false]
  | cons action rest inductionHypothesis =>
      have here := examined action List.mem_cons_self
      rw [List.foldl_cons, inductionHypothesis fun other member =>
        examined other (List.mem_cons_of_mem _ member)]
      cases action with
      | record cpu obj => simp only [performReports, List.mem_cons, reduceCtorEq, false_or]
      | resize cpu size => simp only [performReports, List.mem_cons, reduceCtorEq, false_or]
      | hold slab place => simp only [performReports, List.mem_cons, reduceCtorEq, false_or]
      | report report =>
          have lasting : report.inconsistency = .other report := here
          simp only [performReports, inconsistencies_append, List.mem_append, List.mem_cons,
            ScanAction.report.injEq, or_and_right, exists_or, exists_eq_left, or_assoc]
          change _ ∨ found ∈ [report.inconsistency] ∨ _ <-> _
          rw [List.mem_singleton, lasting]

section Pass

variable (quiet : level < 2) (fresh : world.tables cache.address = freshTables system)

include quiet fresh

/-- A pass over a new cache comes to its end exactly if all its scripts do. -/
theorem passReports_isSome :
    (passReports system cache fuel level world).isSome = true <->
      ScanEnds system cache fuel level ∧ nodesRead system cache = .ok ⟨⟩ := by
  have enacts : Enacts (localView cache) performLocal _
      (passScript system cache level fuel (freshTables system)) _
      (processAllWith system cache (longHeader system fuel) level fuel) :=
    processAllWith_enacts_local quiet fuel (freshTables system)
  have run := enacts { world with reports := [] } fresh
  have busy : ¬ (level = 0 ∧ (freshTables system).processed = true) :=
    fun both => Bool.false_ne_true both.2
  have script : passScript system cache level fuel (freshTables system) =
      scanScript system cache (freshTables system).cpuFreelistsSizes.length noHeader level fuel
        true >>= fun _ => .reading (nodesRead system cache) := by
    unfold passScript percpuScript
    rw [if_neg busy, if_neg fun both => Bool.noConfusion both.1]
    rfl
  have places : (freshTables system).cpuFreelistsSizes.length = system.cpusOnline.length :=
    List.length_replicate
  have ends : (passScript system cache level fuel (freshTables system)).ending = .ok ⟨⟩ <->
      ScanEnds system cache fuel level ∧ nodesRead system cache = .ok ⟨⟩ := by
    rw [script, Script.bind_ending_ok, places]
    unfold scanScript ScanEnds
    rw [← Script.forM_ending_ok]
    exact ⟨fun ⟨_, scanned, read⟩ => ⟨scanned, read⟩, fun ⟨scanned, read⟩ => ⟨⟨⟩, scanned, read⟩⟩
  rw [← ends]
  unfold passReports processAll
  cases ended : (passScript system cache level fuel (freshTables system)).ending with
  | error error =>
      rw [ended] at run
      rcases run with ⟨after, ran, _⟩
      rw [ran]
      exact iff_of_false Bool.false_ne_true nofun
  | ok outcome =>
      rw [ended] at run
      rcases run with ⟨value, after, ran, _⟩
      rw [ran]
      exact iff_of_true rfl rfl

omit quiet in
/-- A pass that comes to its end is a scan and what comes after it. -/
theorem passReports_run {reports : List SlubReport}
    (passed : passReports system cache fuel level world = some reports) :
    Exists fun middle : SlubWorld => Exists fun totals : Option Totals =>
      Exists fun after : SlubWorld =>
        (processPercpu system cache (longHeader system fuel) level fuel).run
          { world with reports := [] } = .ok ⟨⟩ middle ∧
        (finish system cache (longHeader system fuel) level).run middle = .ok totals after ∧
        after.reports = reports := by
  have busy : ¬ (level = 0 ∧ (freshTables system).processed = true) :=
    fun both => Bool.false_ne_true both.2
  have unfolded : (processAll system cache fuel level).run { world with reports := [] } =
      (processPercpu system cache (longHeader system fuel) level fuel >>= fun _ =>
        finish system cache (longHeader system fuel) level).run { world with reports := [] } := by
    unfold processAll
    rw [processAllWith_eq, tables_bind]
    change (if level = 0 ∧ (world.tables cache.address).processed = true then _ else _ :
      SlubM (Option Totals)).run { world with reports := [] } = _
    rw [fresh, if_neg busy]
  unfold passReports at passed
  rw [unfolded, EStateM.run_bind] at passed
  cases scan : (processPercpu system cache (longHeader system fuel) level fuel).run
      { world with reports := [] } with
  | error error middle =>
      rw [scan] at passed
      cases passed
  | ok value middle =>
      cases rest : (finish system cache (longHeader system fuel) level).run middle with
      | error error after =>
          simp only [scan, rest, reduceCtorEq] at passed
      | ok totals after =>
          simp only [scan, rest, Option.some.injEq] at passed
          exact ⟨middle, totals, after, rfl, rest, passed⟩

/-- A pass reports what its scan and the lists of the nodes give it. -/
theorem mem_passReports {reports : List SlubReport}
    (passed : passReports system cache fuel level world = some reports) (found : SlubInconsistency) :
    found ∈ inconsistencies reports <->
      SomeTime (fun before action => Adds system cache world before found action)
          (scanActions system cache fuel level system.cpusOnline) ∨
        Exists fun report : SlubReport =>
          .report report ∈ (finishAfter system cache fuel level system.cpusOnline).actions ∧
            found = .other report := by
  let start : SlubWorld := { world with reports := [] }
  let actions := scanActions system cache fuel level system.cpusOnline
  have ends : ScanEnds system cache fuel level :=
    ((passReports_isSome quiet fresh).mp (by rw [passed]; rfl)).1
  have blank : Blank cache start :=
    ⟨congrArg SlubTables.cpuFreelists fresh, congrArg SlubTables.cpuSlabs fresh⟩
  have places : (freshTables system).cpuFreelistsSizes.length = system.cpusOnline.length :=
    List.length_replicate
  have script : percpuScript system cache noHeader level fuel (start.tables cache.address) =
      scanScript system cache system.cpusOnline.length noHeader level fuel true := by
    change percpuScript system cache noHeader level fuel (world.tables cache.address) = _
    rw [fresh]
    unfold percpuScript
    rw [if_neg fun both => Bool.noConfusion both.1, places]
    rfl
  have taken : (scanScript system cache system.cpusOnline.length noHeader level fuel true).actions =
      actions :=
    Script.forM_actions (Script.forM_ending_ok.mpr ends)
  rcases passReports_run fresh passed with ⟨middle, totals, after, scan, rest, rfl⟩
  rcases (processPercpu_enacts (world_shows (longHeader system fuel) quiet) fuel start.tables
    trivial).of_ok rfl scan with ⟨_, _, shown, _⟩
  rw [script, taken] at shown
  change middle = performed (performWorld system cache) actions start at shown
  have filled : percpu (middle.tables cache.address) =
      scannedTables system cache fuel level system.cpusOnline := by
    have follows := (percpu_faithful system cache).follows actions start
    rw [← shown] at follows
    change percpu _ = performed performPercpu actions (percpu (world.tables _)) at follows
    rw [follows, fresh]
    rfl
  have finishing : Enacts SlubWorld.reports performReports
      (fun world => percpu (world.tables cache.address) =
        scannedTables system cache fuel level system.cpusOnline)
      (finishAfter system cache fuel level system.cpusOnline) _
      (finish system cache (longHeader system fuel) level) :=
    finish_enacts (reports_nodeShows (longHeader system fuel) quiet _) _ _
      (fun tables same => by rw [← same]; rfl) (fun tables same => by rw [← same]; rfl)
      fun _ _ => rfl
  rcases finishing.of_ok filled rest with ⟨outcome, ended, reported, _⟩
  have later : Takes (Examined system) (finishAfter system cache fuel level system.cpusOnline) :=
    finishScript_takes _ _
  rw [reported, mem_performReports (later.fits outcome ended), shown,
    performed_adds blank (scanActions_examined ends)]
  apply or_congr_left
  exact or_iff_right List.not_mem_nil

end Pass

/-! ## What the order does not change -/

section Numbers

/-- The free objects of a page that is taken for a slab. -/
def slabFree (system : SlubSystem) (page : Nat) : Int :=
  match SlabSLUB.fromPageObj system page with
  | .ok slab => slab.nrFree
  | .error _ => 0

/-- The numbers of a cache are those of its dictionaries, which have each key once. -/
structure Tallied (system : SlubSystem) (tables : SlubTables) : Prop where
  slabs : (tables.cpuSlabs.map Prod.fst).Nodup
  freelists : (tables.cpuFreelists.map Prod.fst).Nodup
  free : tables.cpuSlabsFree = ((tables.cpuSlabs.map Prod.fst).map (slabFree system)).sum

theorem nodup_keys_append {Value : Type} {entries : List (Nat × Value)} {key : Nat} {value : Value}
    (distinct : (entries.map Prod.fst).Nodup) (new : entries.lookup key = none) :
    ((entries ++ [(key, value)]).map Prod.fst).Nodup := by
  rw [List.map_append, List.nodup_append]
  refine ⟨distinct, List.nodup_singleton key, ?_⟩
  rintro other member found here rfl
  cases List.mem_singleton.mp here
  have known := (isSome_lookup_iff entries key).mpr member
  rw [new] at known
  cases known

theorem Tallied.perform {tables : SlubTables} (tallied : Tallied system tables)
    {action : ScanAction} (examined : Examined system action) :
    Tallied system (performPercpu action tables) := by
  cases action with
  | record cpu obj =>
      cases known : tables.cpuFreelists.lookup obj with
      | some other =>
          simp only [performPercpu, known]
          exact tallied
      | none =>
          simp only [performPercpu, known]
          exact ⟨tallied.slabs, nodup_keys_append tallied.freelists known, tallied.free⟩
  | resize cpu size => exact tallied
  | hold slab place =>
      cases known : tables.cpuSlabs.lookup slab.address with
      | some other =>
          simp only [performPercpu, known]
          exact tallied
      | none =>
          simp only [performPercpu, known]
          refine ⟨nodup_keys_append tallied.slabs known, tallied.freelists, ?_⟩
          have own : slabFree system slab.address = slab.nrFree := by
            unfold slabFree
            rw [examined.1]
          simp only [enterSlab, List.map_append, List.map_cons, List.map_nil, List.sum_append,
            List.sum_cons, List.sum_nil, own, tallied.free, add_zero]
  | report report => exact tallied

theorem Tallied.performed {actions : List ScanAction}
    (examined : forall action, action ∈ actions -> Examined system action) {tables : SlubTables}
    (tallied : Tallied system tables) :
    Tallied system (performed performPercpu actions tables) := by
  unfold Library.performed
  induction actions generalizing tables with
  | nil => exact tallied
  | cons action rest inductionHypothesis =>
      apply inductionHypothesis fun other member => examined other (List.mem_cons_of_mem _ member)
      exact tallied.perform (examined action List.mem_cons_self)

end Numbers

section Orders

variable {order other : List Nat}

theorem scanActions_perm (permuted : order.Perm other) :
    (scanActions system cache fuel level order).Perm (scanActions system cache fuel level other) := by
  unfold scanActions
  rw [permuted.length_eq]
  exact permuted.flatMap_right _

theorem recordedObjects_perm (permuted : order.Perm other) :
    (recordedObjects (scanActions system cache fuel level order)).Perm
      (recordedObjects (scanActions system cache fuel level other)) :=
  (scanActions_perm permuted).filterMap _

theorem heldPages_perm (permuted : order.Perm other) :
    (heldPages (scanActions system cache fuel level order)).Perm
      (heldPages (scanActions system cache fuel level other)) :=
  (scanActions_perm permuted).filterMap _

/-- The keys of the dictionaries after a scan. -/
theorem mem_scannedTables (key : Nat) :
    (key ∈ (scannedTables system cache fuel level order).cpuFreelists.map Prod.fst <->
      key ∈ recordedObjects (scanActions system cache fuel level order)) ∧
    (key ∈ (scannedTables system cache fuel level order).cpuSlabs.map Prod.fst <->
      key ∈ heldPages (scanActions system cache fuel level order)) := by
  have members := mem_performed (scanActions system cache fuel level order)
    (percpu (freshTables (system.visiting order))) key
  have none : key ∉ ([] : List Nat) := List.not_mem_nil
  exact ⟨members.1.trans (or_iff_right none), members.2.trans (or_iff_right none)⟩

theorem scanActions_examined_perm (ends : ScanEnds system cache fuel level)
    (permuted : order.Perm system.cpusOnline) :
    forall action, action ∈ scanActions system cache fuel level order -> Examined system action :=
  fun action member => scanActions_examined ends action
    ((scanActions_perm permuted).mem_iff.mp member)

/-- What comes after a scan is the same in all orders. -/
theorem finishAfter_perm (permuted : order.Perm other)
    (examined : forall action, action ∈ scanActions system cache fuel level other ->
      Examined system action) :
    finishAfter system cache fuel level order = finishAfter system cache fuel level other := by
  have blank : forall visits, Tallied system (percpu (freshTables (system.visiting visits))) :=
    fun _ => ⟨List.nodup_nil, List.nodup_nil, rfl⟩
  have early : Tallied system (scannedTables system cache fuel level order) :=
    (blank order).performed fun action member =>
      examined action ((scanActions_perm permuted).mem_iff.mp member)
  have late : Tallied system (scannedTables system cache fuel level other) :=
    (blank other).performed examined
  have slabs := (List.perm_ext_iff_of_nodup early.slabs late.slabs).mpr fun key => by
    rw [(mem_scannedTables key).2, (mem_scannedTables key).2, (heldPages_perm permuted).mem_iff]
  have freelists := (List.perm_ext_iff_of_nodup early.freelists late.freelists).mpr fun key => by
    rw [(mem_scannedTables key).1, (mem_scannedTables key).1, (recordedObjects_perm permuted).mem_iff]
  have nrSlabs := slabs.length_eq
  have nrFreelists := freelists.length_eq
  rw [List.length_map, List.length_map] at nrSlabs nrFreelists
  unfold finishAfter
  simp only [early.free, late.free, (slabs.map (slabFree system)).sum_eq, nrSlabs, nrFreelists]

variable (permuted : order.Perm system.cpusOnline)

include permuted

theorem scanEnds_visiting :
    ScanEnds (system.visiting order) cache fuel level <-> ScanEnds system cache fuel level := by
  unfold ScanEnds
  have places : (system.visiting order).cpusOnline.length = system.cpusOnline.length :=
    permuted.length_eq
  rw [places]
  simp only [cpuScript_visiting]
  exact ⟨fun ends cpu online => ends cpu (permuted.mem_iff.mpr online),
    fun ends cpu online => ends cpu (permuted.mem_iff.mp online)⟩

theorem freshTables_visiting : freshTables (system.visiting order) = freshTables system := by
  unfold freshTables
  exact congrArg (fun places => SlubTables.mk [] [] 0 0 [] (List.replicate places 0) false)
    permuted.length_eq

omit permuted in
theorem scanActions_visiting :
    scanActions (system.visiting order) cache fuel level order =
      scanActions system cache fuel level order := by
  unfold scanActions
  simp only [cpuScript_visiting]

omit permuted in
theorem finishAfter_visiting :
    finishAfter (system.visiting order) cache fuel level order =
      finishAfter system cache fuel level order := by
  unfold finishAfter scannedTables
  rw [scanActions_visiting]
  rfl

end Orders

/-! ## Where the order makes a difference -/

/-- What the processor holds is what its script finds. -/
theorem CpuHolds.holdsSlab_iff {cpu active : Nat} {objects slabs : List Nat}
    (holds : CpuHolds system cache cpu objects active slabs) (page : Nat) :
    page ∈ holdings active slabs <-> HoldsSlab system cache cpu page := by
  rcases holds with ⟨cpuSlab, found, _, held, first, started, chain⟩
  unfold holdings HoldsSlab
  rw [List.mem_append, found, chain.mem_iff]
  constructor
  · rintro (here | listed)
    · by_cases null : active = 0
      · rw [if_pos null] at here
        cases here
      · rw [if_neg null, List.mem_singleton] at here
        subst here
        exact ⟨cpuSlab, rfl, .inl ⟨held, null⟩⟩
    · exact ⟨cpuSlab, rfl, .inr ⟨first, started, listed⟩⟩
  · rintro ⟨_, same, ⟨here, nonNull⟩ | ⟨other, again, listed⟩⟩
    · cases same
      rw [held] at here
      cases here
      rw [if_neg nonNull]
      exact .inl List.mem_cons_self
    · cases same
      rw [started] at again
      cases again
      exact .inr listed

theorem CpuHolds.lockless_eq {cpu active : Nat} {objects slabs : List Nat}
    (holds : CpuHolds system cache cpu objects active slabs) :
    locklessObjects system cache cpu = objects := by
  rcases holds with ⟨cpuSlab, found, ⟨ending, walked, _⟩, _⟩
  unfold locklessObjects
  simp only [found, walked]

section Visits

variable (ends : ScanEnds system cache fuel level)

/-- The actions of one processor. -/
def visitActions (system : SlubSystem) (cache : KmemCacheSLUB) (fuel level cpu : Nat) :
    List ScanAction :=
  (cpuScript system cache system.cpusOnline.length noHeader level fuel true cpu).actions

theorem scanActions_eq {order : List Nat} (permuted : order.Perm system.cpusOnline) :
    scanActions system cache fuel level order = order.flatMap (visitActions system cache fuel level) := by
  unfold scanActions visitActions
  rw [permuted.length_eq]

include ends

/-- A visit records the chain of its processor, and then finds its slabs. -/
theorem visitActions_contents {cpu : Nat} (online : cpu ∈ system.cpusOnline) :
    recordedObjects (visitActions system cache fuel level cpu) = locklessObjects system cache cpu ∧
      (forall page, page ∈ heldPages (visitActions system cache fuel level cpu) <->
        HoldsSlab system cache cpu page) ∧
      Exists fun early : List ScanAction => Exists fun late : List ScanAction =>
        visitActions system cache fuel level cpu = early ++ late ∧ heldPages early = [] ∧
          recordedObjects late = [] := by
  rcases cpuScript_ok (ends cpu online) with ⟨objects, active, slabs, holds, rest, split, none, held⟩
  unfold visitActions
  rw [split, recordedObjects_append, heldPages_append, recordedObjects_map, heldPages_map, none, held,
    List.append_nil, List.nil_append, holds.lockless_eq]
  exact ⟨rfl, holds.holdsSlab_iff, _, rest, rfl, heldPages_map cpu objects, none⟩

theorem recordedObjects_online :
    recordedObjects (scanActions system cache fuel level system.cpusOnline) =
      system.cpusOnline.flatMap (locklessObjects system cache) := by
  rw [scanActions_eq (List.Perm.refl _), recordedObjects_flatMap]
  exact List.flatMap_congr fun cpu online => (visitActions_contents ends online).1

theorem mem_heldPages_online (page : Nat) :
    page ∈ heldPages (scanActions system cache fuel level system.cpusOnline) <->
      Held system cache page := by
  rw [scanActions_eq (List.Perm.refl _), heldPages_flatMap, List.mem_flatMap]
  exact exists_congr fun cpu => and_congr_right fun online =>
    (visitActions_contents ends online).2.1 page

/-- The free objects of a slab of the cache are compared with the objects recorded by
then. -/
theorem look_own {order : List Nat} (permuted : order.Perm system.cpusOnline) {slab : SlabSLUB}
    (own : slab.kmemCache.address = cache.address) (page obj : Nat) :
    SomeTime (fun before action => heldPage action = some page ∧ page ∉ heldPages before ∧
        Cached cache world (recordedObjects before) slab obj)
        (scanActions system cache fuel level order) <->
      SeenInTest (fun cpu => recordedObjects (visitActions system cache fuel level cpu))
        (fun cpu => heldPages (visitActions system cache fuel level cpu)) obj page order := by
  simp only [Cached, if_pos own]
  rw [scanActions_eq permuted]
  apply seenInTest_iff
  intro cpu inside
  exact (visitActions_contents ends (permuted.mem_iff.mp inside)).2.2

/-- The free objects of a slab of another cache are compared with the objects recorded
in earlier passes. -/
theorem look_foreign {order : List Nat} (permuted : order.Perm system.cpusOnline) {slab : SlabSLUB}
    (foreign : slab.kmemCache.address ≠ cache.address) (page obj : Nat) (recorded : List Nat) :
    SomeTime (fun before action => heldPage action = some page ∧ page ∉ heldPages before ∧
        Cached cache world (recordedObjects before) slab obj)
        (scanActions system cache fuel level order) <->
      Held system cache page ∧ Cached cache world recorded slab obj := by
  simp only [Cached, if_neg foreign, ← and_assoc]
  rw [someTime_and_const, ← mem_heldPages_online ends, ← (heldPages_perm permuted).mem_iff,
    ← heldPages_eq, ← someTime_first]
  rfl

/-- When all orders agree on a free object, and only then, it is on no chain, or on the
chain of each processor that holds its slab. -/
theorem seen_orders_agree (page obj : Nat) :
    (forall order other, order.Perm system.cpusOnline -> other.Perm system.cpusOnline ->
      (SeenInTest (fun cpu => recordedObjects (visitActions system cache fuel level cpu))
          (fun cpu => heldPages (visitActions system cache fuel level cpu)) obj page order <->
        SeenInTest (fun cpu => recordedObjects (visitActions system cache fuel level cpu))
          (fun cpu => heldPages (visitActions system cache fuel level cpu)) obj page other)) <->
      (obj ∈ system.cpusOnline.flatMap (locklessObjects system cache) ->
        forall holder, holder ∈ system.cpusOnline -> HoldsSlab system cache holder page ->
          obj ∈ locklessObjects system cache holder) := by
  rw [seenInTest_orders_agree, List.flatMap_congr fun cpu online =>
    (visitActions_contents ends online).1]
  apply imp_congr_right
  intro _
  apply forall_congr'
  intro holder
  apply imp_congr_right
  intro online
  have contents := visitActions_contents ends online
  rw [contents.1, contents.2.1]

end Visits

section Main

variable (quiet : level < 2) (fresh : world.tables cache.address = freshTables system)

include quiet fresh

/-- In every order the same passes come to their end. -/
theorem passReports_visiting_isSome {order : List Nat} (permuted : order.Perm system.cpusOnline) :
    (passReports (system.visiting order) cache fuel level world).isSome = true <->
      ScanEnds system cache fuel level ∧ nodesRead system cache = .ok ⟨⟩ := by
  rw [passReports_isSome quiet (fresh.trans (freshTables_visiting permuted).symm),
    scanEnds_visiting permuted]
  rfl

theorem scanEnds_of_passed {order : List Nat} (permuted : order.Perm system.cpusOnline)
    {reports : List SlubReport}
    (passed : passReports (system.visiting order) cache fuel level world = some reports) :
    ScanEnds system cache fuel level :=
  ((passReports_visiting_isSome quiet fresh permuted).mp (by rw [passed]; rfl)).1

/-- What a pass reports in some order. -/
theorem mem_passReports_visiting {order : List Nat} (permuted : order.Perm system.cpusOnline)
    {reports : List SlubReport}
    (passed : passReports (system.visiting order) cache fuel level world = some reports)
    (found : SlubInconsistency) :
    found ∈ inconsistencies reports <->
      SomeTime (fun before action => Adds system cache world before found action)
          (scanActions system cache fuel level order) ∨
        Exists fun report : SlubReport =>
          .report report ∈ (finishAfter system cache fuel level order).actions ∧
            found = .other report := by
  rw [← scanActions_visiting, ← finishAfter_visiting]
  exact mem_passReports quiet (fresh.trans (freshTables_visiting permuted).symm) passed found

/-- Whether a free object of a slab is reported as recorded. -/
theorem mem_freeAndCached {order : List Nat} (permuted : order.Perm system.cpusOnline)
    {reports : List SlubReport}
    (passed : passReports (system.visiting order) cache fuel level world = some reports)
    (address page obj : Nat) :
    .freeAndCached address page obj ∈ inconsistencies reports <->
      Exists fun slab : SlabSLUB => SlabSLUB.fromPageObj system page = .ok slab ∧
        slab.kmemCache.address = address ∧ obj ∈ (SlabSLUB.freelistWalk system slab).1 ∧
        SomeTime (fun before action => heldPage action = some page ∧ page ∉ heldPages before ∧
          Cached cache world (recordedObjects before) slab obj)
          (scanActions system cache fuel level order) := by
  have ends := scanEnds_of_passed quiet fresh permuted passed
  rw [mem_passReports_visiting quiet fresh permuted passed,
    someTime_freeAndCached system cache world (scanActions_examined_perm ends permuted)]
  apply or_iff_left
  rintro ⟨report, _, impossible⟩
  cases impossible

/-- Whether an object is reported as recorded twice. -/
theorem mem_objectTwice {order : List Nat} (permuted : order.Perm system.cpusOnline)
    {reports : List SlubReport}
    (passed : passReports (system.visiting order) cache fuel level world = some reports)
    (address obj : Nat) :
    .objectTwice address obj ∈ inconsistencies reports <->
      2 ≤ (system.cpusOnline.flatMap (locklessObjects system cache)).count obj ∧
        address = cache.address := by
  have ends := scanEnds_of_passed quiet fresh permuted passed
  rw [mem_passReports_visiting quiet fresh permuted passed,
    someTime_objectTwice, (recordedObjects_perm permuted).count_eq, recordedObjects_online ends]
  apply or_iff_left
  rintro ⟨report, _, impossible⟩
  cases impossible

/-- What does not depend on the dictionaries is reported in all orders. -/
theorem mem_other_alike {order other : List Nat} (permuted : order.Perm system.cpusOnline)
    (again : other.Perm system.cpusOnline) {reports others : List SlubReport}
    (passed : passReports (system.visiting order) cache fuel level world = some reports)
    (repassed : passReports (system.visiting other) cache fuel level world = some others)
    (report : SlubReport) :
    .other report ∈ inconsistencies reports <-> .other report ∈ inconsistencies others := by
  have ends := scanEnds_of_passed quiet fresh permuted passed
  have both : order.Perm other := permuted.trans again.symm
  have early := scanActions_examined_perm ends permuted
  have late := scanActions_examined_perm ends again
  have actions : forall action, action ∈ scanActions system cache fuel level order <->
      action ∈ scanActions system cache fuel level other :=
    fun action => (scanActions_perm both).mem_iff
  have pages : forall page, page ∈ heldPages (scanActions system cache fuel level order) <->
      page ∈ heldPages (scanActions system cache fuel level other) :=
    fun page => (heldPages_perm both).mem_iff
  rw [mem_passReports_visiting quiet fresh permuted passed,
    mem_passReports_visiting quiet fresh again repassed, finishAfter_perm both late,
    someTime_other system cache world early, someTime_other system cache world late, actions]
  simp only [pages]

/-- A slab that is found twice is reported in all orders. -/
theorem mem_slabTwice_alike {order other : List Nat} (permuted : order.Perm system.cpusOnline)
    (again : other.Perm system.cpusOnline) {reports others : List SlubReport}
    (passed : passReports (system.visiting order) cache fuel level world = some reports)
    (repassed : passReports (system.visiting other) cache fuel level world = some others)
    (address page : Nat) :
    .slabTwice address page ∈ inconsistencies reports <->
      .slabTwice address page ∈ inconsistencies others := by
  rw [mem_passReports_visiting quiet fresh permuted passed,
    mem_passReports_visiting quiet fresh again repassed, someTime_slabTwice, someTime_slabTwice,
    (heldPages_perm (permuted.trans again.symm)).count_eq]
  simp only [reduceCtorEq, and_false, exists_false]

/-- An object that can be noticed is reported in every order. -/
theorem noticed_of_noticeable (checkable : CrossCheckable system cache world) {order : List Nat}
    (permuted : order.Perm system.cpusOnline) {reports : List SlubReport}
    (passed : passReports (system.visiting order) cache fuel level world = some reports) {obj : Nat}
    (noticeable : Noticeable system cache world obj) :
    Exists fun found : SlubInconsistency => found ∈ inconsistencies reports ∧ found.About obj := by
  have ends := scanEnds_of_passed quiet fresh permuted passed
  rcases noticeable with twice | ⟨page, slab, held, made, free, cached⟩
  · exact ⟨.objectTwice cache.address obj,
      (mem_objectTwice quiet fresh permuted passed _ _).mpr ⟨twice, rfl⟩, rfl⟩
  · refine ⟨.freeAndCached slab.kmemCache.address page obj,
      (mem_freeAndCached quiet fresh permuted passed _ _ _).mpr ⟨slab, made, rfl, free, ?_⟩, rfl⟩
    by_cases own : slab.kmemCache.address = cache.address
    · rw [look_own ends permuted own]
      unfold Cached at cached
      rw [if_pos own] at cached
      rcases held with ⟨holder, online, holds⟩
      apply seenInTest_of_all
      · exact List.mem_flatMap_of_mem (permuted.mem_iff.mpr online)
          (((visitActions_contents ends online).2.1 page).mpr holds)
      · intro cpu inside taken
        have there := permuted.mem_iff.mp inside
        have contents := visitActions_contents ends there
        rw [contents.1]
        exact checkable.own cpu page slab obj there ((contents.2.1 page).mp taken) made own free cached
    · exact (look_foreign ends permuted own page obj _).mpr ⟨held, cached⟩

/-- An object that is reported can be noticed. -/
theorem noticeable_of_noticed {reports : List SlubReport}
    (passed : passReports system cache fuel level world = some reports) {obj : Nat}
    {found : SlubInconsistency} (reported : found ∈ inconsistencies reports)
    (about : found.About obj) : Noticeable system cache world obj := by
  have same : system.cpusOnline.Perm system.cpusOnline := List.Perm.refl _
  have ends := scanEnds_of_passed quiet fresh same passed
  cases found with
  | objectTwice address other =>
      cases about
      exact .inl ((mem_objectTwice quiet fresh same passed _ _).mp reported).1
  | slabTwice address page => exact False.elim about
  | freeAndCached address page other =>
      cases about
      rcases (mem_freeAndCached quiet fresh same passed _ _ _).mp reported with
        ⟨slab, made, _, free, look⟩
      by_cases own : slab.kmemCache.address = cache.address
      · have seen := (look_own ends same own page obj).mp look
        refine .inr ⟨page, slab, ?_, made, free, ?_⟩
        · rcases List.mem_flatMap.mp seen.tested with ⟨holder, online, taken⟩
          exact ⟨holder, online, ((visitActions_contents ends online).2.1 page).mp taken⟩
        · have marked := seen.marked
          rw [List.flatMap_congr fun cpu online => (visitActions_contents ends online).1] at marked
          unfold Cached
          rw [if_pos own]
          exact marked
      · rcases (look_foreign ends same own page obj
          (system.cpusOnline.flatMap (locklessObjects system cache))).mp look with ⟨held, cached⟩
        exact .inr ⟨page, slab, held, made, free, cached⟩
  | other report => exact False.elim about

/-- A free object is reported in all orders or in none. -/
theorem mem_freeAndCached_alike (checkable : CrossCheckable system cache world)
    {order other : List Nat} (permuted : order.Perm system.cpusOnline)
    (again : other.Perm system.cpusOnline) {reports others : List SlubReport}
    (passed : passReports (system.visiting order) cache fuel level world = some reports)
    (repassed : passReports (system.visiting other) cache fuel level world = some others)
    (address page obj : Nat) :
    .freeAndCached address page obj ∈ inconsistencies reports <->
      .freeAndCached address page obj ∈ inconsistencies others := by
  have ends := scanEnds_of_passed quiet fresh permuted passed
  rw [mem_freeAndCached quiet fresh permuted passed, mem_freeAndCached quiet fresh again repassed]
  apply exists_congr
  intro slab
  apply and_congr_right
  intro made
  apply and_congr_right
  intro _
  apply and_congr_right
  intro free
  by_cases own : slab.kmemCache.address = cache.address
  · rw [look_own ends permuted own, look_own ends again own]
    refine (seen_orders_agree ends page obj).mpr ?_ order other permuted again
    exact fun cached holder online holds =>
      checkable.own holder page slab obj online holds made own free cached
  · rw [look_foreign ends permuted own page obj [], look_foreign ends again own page obj []]

/-- The cross check of a pass that comes to its end is what it should be exactly if the
objects it concerns are on the chains of the processors that hold their slabs. -/
theorem crossChecks_iff
    (completes : (passReports system cache fuel level world).isSome = true) :
    CrossChecks system cache fuel level world <-> CrossCheckable system cache world := by
  have ended := (passReports_isSome quiet fresh).mp completes
  have ends : ScanEnds system cache fuel level := ended.1
  have complete : forall order, order.Perm system.cpusOnline ->
      Exists fun reports : List SlubReport =>
        passReports (system.visiting order) cache fuel level world = some reports :=
    fun order permuted => Option.isSome_iff_exists.mp
      ((passReports_visiting_isSome quiet fresh permuted).mpr ended)
  constructor
  · intro crossChecks
    constructor
    · intro holder page slab obj online holds made own free cached
      refine (seen_orders_agree ends page obj).mp ?_ cached holder online holds
      have settled : forall order reports, order.Perm system.cpusOnline ->
          passReports (system.visiting order) cache fuel level world = some reports ->
          (SeenInTest (fun cpu => recordedObjects (visitActions system cache fuel level cpu))
            (fun cpu => heldPages (visitActions system cache fuel level cpu)) obj page order <->
            .freeAndCached cache.address page obj ∈ inconsistencies reports) := by
        intro order reports permuted passed
        rw [mem_freeAndCached quiet fresh permuted passed, ← look_own ends permuted own]
        constructor
        · exact fun look => ⟨slab, made, own, free, look⟩
        · rintro ⟨other, remade, _, _, look⟩
          rw [made] at remade
          cases remade
          exact look
      intro order other permuted again
      rcases complete order permuted with ⟨reports, passed⟩
      rcases complete other again with ⟨others, repassed⟩
      rw [settled order reports permuted passed, settled other others again repassed]
      exact crossChecks.alike order other reports others permuted again passed repassed _
    · intro obj held lockless
      rcases complete system.cpusOnline (List.Perm.refl _) with ⟨reports, passed⟩
      rcases crossChecks.noticed _ reports (List.Perm.refl _) passed obj held lockless with
        ⟨found, reported, about⟩
      exact noticeable_of_noticed quiet fresh passed reported about
  · intro checkable
    refine ⟨complete, ?_, ?_⟩
    · intro order reports permuted passed obj held lockless
      exact noticed_of_noticeable quiet fresh checkable permuted passed
        (checkable.noticeable obj held lockless)
    · intro order other reports others permuted again passed repassed found
      cases found with
      | objectTwice address obj =>
          rw [mem_objectTwice quiet fresh permuted passed, mem_objectTwice quiet fresh again repassed]
      | slabTwice address page =>
          exact mem_slabTwice_alike quiet fresh permuted again passed repassed address page
      | freeAndCached address page obj =>
          exact mem_freeAndCached_alike quiet fresh checkable permuted again passed repassed address
            page obj
      | other report =>
          exact mem_other_alike quiet fresh permuted again passed repassed report

end Main

/-- A cache on two processors, each of which has an active slab.  The chain of the
second one has a free object of the slab of the first one. -/
def crossedCache : KmemCacheSLUB where
  name := "crossed"
  address := 16
  size := 64
  flags := 0
  fpOffset := 0
  redLeftPadField := 0
  inuse := 64
  cpuSlab := fun cpu =>
    if cpu = 0 then .ok ⟨.ok 0, .ok 4096, .ok 0⟩ else .ok ⟨.ok 65536, .ok 8192, .ok 0⟩
  nodelist := fun _ => .ok none

/-- The first slab has one object, which is free. -/
def crossedSystem : SlubSystem :=
  .single crossedCache [0, 1]
    [(4096, ⟨.ok 65536, .ok 1, .ok 0, .ok 1, .ok 16, .ok 1, .ok 0⟩),
      (8192, ⟨.ok 0, .ok 1, .ok 1, .ok 1, .ok 16, .ok 1, .ok 0⟩)] [(65536, 0)]

/-- The caches before anything was done with them. -/
def crossedWorld : SlubWorld :=
  ⟨fun _ => freshTables crossedSystem, []⟩

/-- The condition decides about the pass over the crossed cache. -/
theorem crossChecks_iff_crossed :
    CrossChecks crossedSystem crossedCache 1 1 crossedWorld <->
      CrossCheckable crossedSystem crossedCache crossedWorld :=
  crossChecks_iff (Nat.lt_succ_self 1) rfl (by decide)

/-- The object is noticed only if the second processor is visited first. -/
theorem crossed_not_noticed :
    OnHeldFreelist crossedSystem crossedCache 65536 ∧
      OnLocklessFreelist crossedSystem crossedCache 65536 ∧
      passReports crossedSystem crossedCache 1 1 crossedWorld = some [] ∧
      passReports (crossedSystem.visiting [1, 0]) crossedCache 1 1 crossedWorld =
        some [.freeAndCached 16 4096 65536 1] ∧
      ¬ CrossChecks crossedSystem crossedCache 1 1 crossedWorld := by
  have held : OnHeldFreelist crossedSystem crossedCache 65536 :=
    ⟨4096, _, 65536, ⟨0, List.mem_cons_self, _, rfl, .inl ⟨rfl, by decide⟩⟩, rfl, rfl,
      .here (by decide)⟩
  have lockless : OnLocklessFreelist crossedSystem crossedCache 65536 :=
    ⟨1, _, 65536, List.mem_cons_of_mem _ List.mem_cons_self, rfl, rfl, .here (by decide)⟩
  have silent : passReports crossedSystem crossedCache 1 1 crossedWorld = some [] := by decide
  refine ⟨held, lockless, silent, by decide, ?_⟩
  intro crossChecks
  rcases crossChecks.noticed [0, 1] [] (List.Perm.refl _) silent 65536 held lockless with
    ⟨found, reported, _⟩
  cases reported

end KmemCacheSLUB
end Slab
end CrashPython

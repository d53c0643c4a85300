import CrashPython.Slab.SlubNodes

namespace CrashPython
namespace Slab
namespace KmemCacheSLUB

open Library Types

/-!
# The quiet pass

At print level 0 `process_all` looks at one cache only.  How such a pass ends
depends on memory and on the attributes of the cache before it: a processed
cache is left alone, a cache of which slabs are known is not scanned again.  The
pass changes nothing but the object of its cache, and it leaves the dictionaries
of a cache of which slabs are known as they are.

A header makes a quiet pass over the cache of its slab.
-/

variable (system : SlubSystem) (cache : KmemCacheSLUB)

/-! ## What the lists of the nodes need -/

/-- The reads for a slab on a list. -/
def nodeSlabRead (listHead : Nat) : Except Halt PUnit := do
  let slab <- halting (SlabSLUB.fromListHead system listHead cache)
  let _ <- halting (fetched (system.pages slab.address).frozen)
  return ⟨⟩

/-- The end of a walk along a list. -/
def endRead : Ending ListError -> Except Halt PUnit
  | .completed => .ok ⟨⟩
  | .raised error => .error (.raised (.listFailure error))

/-- The reads for a list of a node. -/
def nodeListRead (head : Nat) : Except Halt PUnit := do
  let walk := listRun system.lists.image {} head
  (yieldedNodes walk.events).forM (nodeSlabRead system cache)
  endRead walk.ending

/-- The reads for one node. -/
def nodeRead (node : KmemCacheNode) : Except Halt PUnit := do
  let _ <- halting (fetched node.nrSlabs)
  let _ <- halting (fetched node.totalObjects)
  let _ <- halting (fetched node.nrPartial)
  nodeListRead system cache node.partialList
  nodeListRead system cache node.fullList

/-- The reads for one node number. -/
def nidRead (nid : Nat) : Except Halt PUnit := do
  let node <- halting (fetched (cache.nodelist nid))
  match node with
  | none => .ok ⟨⟩
  | some node => nodeRead system cache node

/-- The reads after the scan of a quiet pass. -/
def nodesRead : Except Halt PUnit := do
  let nids <- halting (forEachNid system)
  nids.forM (nidRead system cache)

/-- An action that only reports. -/
def Reports (action : ScanAction) : Prop :=
  Exists fun report : SlubReport => action = .report report

section Sketch

variable {outcome : KmemCacheSLUB -> Except Halt PUnit} {level : Nat} (quiet : level < 3)

theorem reportIf_sketches (condition : Prop) [Decidable condition] (report : SlubReport) :
    Sketches Reports (if condition then .act (.report report) else pure ⟨⟩ : SlubScript PUnit)
      (.ok ⟨⟩) := by
  split
  · exact Sketches.act ⟨report, rfl⟩
  · exact Sketches.returns _

include quiet

theorem visitNodeScript_sketches (place : NodePlace) (listHead : Nat) :
    Sketches Reports (visitNodeScript system cache outcome level place listHead)
      (nodeSlabRead system cache listHead) := by
  apply Sketches.reads
  intro slab made
  simp only [headerScript, printScript, SlabSLUB.frozenScript]
  rw [if_neg (Nat.not_le.mpr quiet),
    if_neg fun both => Nat.not_le.mpr (Nat.lt_succ_of_lt quiet) both.1]
  change Sketches Reports (glimpse (system.pages slab.address).frozen >>= _ >>= _) _
  rw [Script.bind_assoc]
  apply Sketches.reads
  intro frozen read
  exact (reportIf_sketches _ _).andThen fun _ _ => Sketches.returns slab

omit quiet in
theorem endScript_sketches (ending : Ending ListError) :
    Sketches Reports (endScript ending) (endRead ending) := by
  cases ending with
  | completed => exact Sketches.returns _
  | raised error => exact Sketches.raises _

theorem nodePartialScript_sketches (nid : Nat) (node : KmemCacheNode) (nrFreeObjs : Int) :
    Sketches Reports (nodePartialScript system cache outcome level nid node nrFreeObjs)
      (nodeListRead system cache node.partialList) := by
  apply Sketches.andThen (Sketches.fold _ _)
  · intro counted _
    exact (endScript_sketches _).thenReturns fun _ => Sketches.returns counted
  · intro counted listHead
    exact (visitNodeScript_sketches system cache quiet _ listHead).thenReturns fun _ =>
      Sketches.returns _

theorem nodeFullScript_sketches (nid : Nat) (node : KmemCacheNode) :
    Sketches Reports (nodeFullScript system cache outcome level nid node)
      (nodeListRead system cache node.fullList) := by
  apply Sketches.andThen (Sketches.fold _ _)
  · intro counted _
    exact (endScript_sketches _).thenReturns fun _ => Sketches.returns counted
  · intro counted listHead
    exact (visitNodeScript_sketches system cache quiet _ listHead).thenReturns fun _ =>
      Sketches.returns _

theorem nidScript_sketches (totals : NodeTotals) (nid : Nat) :
    Sketches Reports (nidScript system cache outcome level totals nid)
      (nidRead system cache nid) := by
  apply Sketches.reads
  intro node _
  cases node with
  | none => exact Sketches.returns totals
  | some node =>
      apply Sketches.reads
      intro nrSlabs _
      apply Sketches.reads
      intro nrObjs _
      apply Sketches.reads
      intro expected _
      apply (nodePartialScript_sketches system cache quiet nid node _).andThen
      intro counted _
      apply (reportIf_sketches _ _).andThen
      intro _ _
      apply (nodeFullScript_sketches system cache quiet nid node).thenReturns
      intro found
      exact (reportIf_sketches _ _).thenReturns fun _ => Sketches.returns _

/-- What comes after the scan only reports, and fails where its reads do. -/
theorem finishScript_sketches (nrFreeObjs nrPercpu : Int) :
    Sketches Reports (finishScript system cache outcome level nrFreeObjs nrPercpu)
      (nodesRead system cache) := by
  apply Sketches.reads
  intro nids _
  apply (Sketches.fold (nidScript_sketches system cache quiet) _).thenReturns
  intro totals
  exact (reportIf_sketches _ _).thenReturns fun _ => Sketches.returns _

end Sketch

/-! ## The views of a pass -/

/-- The actions of the scan on the portion of the attributes it fills in. -/
def performPercpu : ScanAction -> SlubTables -> SlubTables
  | .record cpu obj, tables =>
      match tables.cpuFreelists.lookup obj with
      | some _ => tables
      | none => { tables with cpuFreelists := tables.cpuFreelists ++ [(obj, cpu)] }
  | .resize _ _, tables => tables
  | .hold slab place, tables =>
      match tables.cpuSlabs.lookup slab.address with
      | some _ => tables
      | none => enterSlab slab place tables
  | .report _, tables => tables

/-- The dictionaries only grow. -/
structure Grows (before after : SlubTables) : Prop where
  slabs : before.cpuSlabs <+: after.cpuSlabs
  freelists : before.cpuFreelists <+: after.cpuFreelists

theorem Grows.refl (tables : SlubTables) : Grows tables tables :=
  ⟨List.prefix_rfl, List.prefix_rfl⟩

theorem Grows.trans {first second third : SlubTables} (early : Grows first second)
    (late : Grows second third) : Grows first third :=
  ⟨early.slabs.trans late.slabs, early.freelists.trans late.freelists⟩

theorem performPercpu_grows (action : ScanAction) (tables : SlubTables) :
    Grows tables (performPercpu action tables) := by
  cases action with
  | record cpu obj =>
      cases known : tables.cpuFreelists.lookup obj with
      | some other =>
          simp only [performPercpu, known]
          exact Grows.refl tables
      | none =>
          simp only [performPercpu, known]
          exact ⟨List.prefix_rfl, List.prefix_append _ _⟩
  | resize cpu size => exact Grows.refl tables
  | hold slab place =>
      cases known : tables.cpuSlabs.lookup slab.address with
      | some other =>
          simp only [performPercpu, known]
          exact Grows.refl tables
      | none =>
          simp only [performPercpu, known]
          exact ⟨List.prefix_append _ _, List.prefix_rfl⟩
  | report report => exact Grows.refl tables

theorem performed_grows (actions : List ScanAction) (tables : SlubTables) :
    Grows tables (performed performPercpu actions tables) := by
  simp only [performed]
  induction actions generalizing tables with
  | nil => exact Grows.refl tables
  | cons action rest inductionHypothesis =>
      exact (performPercpu_grows action tables).trans (inductionHypothesis _)

/-- The portion that the scan of a cache fills in. -/
def percpuView (world : SlubWorld) : SlubTables :=
  percpu (world.tables cache.address)

/-- The objects of all other caches. -/
def othersView (world : SlubWorld) : Nat -> SlubTables :=
  fun address => if address = cache.address then { cpuFreelistsSizes := [] } else world.tables address

/-- Both of these. -/
def localView (world : SlubWorld) : SlubTables × (Nat -> SlubTables) :=
  (percpuView cache world, othersView cache world)

/-- The actions of the scan concern its own cache. -/
def performLocal (action : ScanAction) (view : SlubTables × (Nat -> SlubTables)) :
    SlubTables × (Nat -> SlubTables) :=
  (performPercpu action view.1, view.2)

/-- Reading the free objects of a slab leaves all caches as they are. -/
theorem populateFree_tables (slab : SlabSLUB) (world : SlubWorld) :
    (finalState ((SlabSLUB.populateFree system slab).run world)).tables = world.tables := by
  cases fresh : slab.freePopulated with
  | true =>
      simp only [SlabSLUB.populateFree]
      rw [fresh]
      rfl
  | false =>
      have run := SlabSLUB.populateFree_enacts system fresh _ world rfl
      cases found : SlabSLUB.freeObjects system slab with
      | error error =>
          rw [found] at run
          rcases run with ⟨after, ran, same⟩
          rw [ran]
          exact same
      | ok free =>
          rw [found] at run
          rcases run with ⟨populated, after, ran, _, _, _, same⟩
          rw [ran]
          exact same

theorem othersView_update (change : SlubTables -> SlubTables) (world : SlubWorld) :
    othersView cache (world.update cache.address change) = othersView cache world := by
  funext address
  simp only [othersView]
  by_cases same : address = cache.address
  · rw [if_pos same, if_pos same]
  · rw [if_neg same, if_neg same, SlubWorld.update_tables_ne same]

/-- The tables after `_add_percpu_slub`. -/
theorem addPercpuSlub_tables (slab : SlabSLUB) (place : CpuPlace) (world : SlubWorld) :
    (finalState ((addPercpuSlub system cache slab place).run world)).tables =
      match (world.tables cache.address).cpuSlabs.lookup slab.address with
      | some _ => world.tables
      | none => (world.update cache.address (enterSlab slab place)).tables := by
  cases known : (world.tables cache.address).cpuSlabs.lookup slab.address with
  | some other =>
      rw [addPercpuSlub_known known]
      rfl
  | none =>
      rw [addPercpuSlub_new place known]
      exact populateFree_tables system slab _

theorem percpu_faithful : Faithful system cache (percpuView cache) performPercpu := by
  constructor
  · intro cpu obj world
    simp only [percpuView, recordObject, performPercpu]
    cases known : (world.tables cache.address).cpuFreelists.lookup obj with
    | some other =>
        simp only [percpu, known, SlubWorld.prErr_tables]
    | none =>
        simp only [percpu, known, SlubWorld.update_tables_self]
  · intro cpu size world
    simp only [percpuView, performPercpu]
    simp only [percpu, resized, SlubWorld.update_tables_self, List.length_set]
  · intro slab place world
    simp only [percpuView, performPercpu]
    rw [addPercpuSlub_tables]
    cases known : (world.tables cache.address).cpuSlabs.lookup slab.address with
    | some other =>
        simp only [percpu, known]
    | none =>
        simp only [percpu, known, SlubWorld.update_tables_self, enterSlab]
  · intro report world
    rfl

theorem others_faithful : Faithful system cache (othersView cache) (fun _ => id) := by
  constructor
  · intro cpu obj world
    simp only [recordObject]
    split
    · rfl
    · exact othersView_update cache _ world
  · intro cpu size world
    exact othersView_update cache _ world
  · intro slab place world
    have after := addPercpuSlub_tables system cache slab place world
    cases known : (world.tables cache.address).cpuSlabs.lookup slab.address with
    | some other =>
        rw [known] at after
        unfold othersView
        rw [after]
        rfl
    | none =>
        rw [known] at after
        have same := othersView_update cache (enterSlab slab place) world
        unfold othersView at same ⊢
        rw [after]
        exact same
  · intro report world
    rfl

theorem local_faithful : Faithful system cache (localView cache) performLocal := by
  have portion := percpu_faithful system cache
  have others := others_faithful system cache
  constructor
  · intro cpu obj world
    exact Prod.ext (portion.record cpu obj world) (others.record cpu obj world)
  · intro cpu size world
    exact Prod.ext (portion.resize cpu size world) (others.resize cpu size world)
  · intro slab place world
    exact Prod.ext (portion.hold slab place world) (others.hold slab place world)
  · intro report world
    rfl

/-- At the low print levels no header is printed. -/
theorem local_shows (header : SlabSLUB -> SlubM PUnit) {level : Nat} (quiet : level < 2)
    (outcome : KmemCacheSLUB -> Except Halt PUnit) :
    Shows system cache (localView cache) performLocal header level outcome (fun _ => True) where
  faithful := local_faithful system cache
  elsewhere := fun _ _ _ _ start => start
  printed := fun printing => absurd printing (by omega)
  headed := fun printing => absurd printing (by omega)

/-- Neither in the walk along the lists. -/
theorem local_nodeShows (header : SlabSLUB -> SlubM PUnit) {level : Nat} (quiet : level < 2)
    (outcome : KmemCacheSLUB -> Except Halt PUnit) (filled : SlubTables) :
    NodeShows system cache (localView cache) performLocal header level outcome
      (fun tables => percpu (tables cache.address) = filled) where
  report := fun _ _ => rfl
  placed := by
    intro world places
    apply Prod.ext
    · change percpu _ = percpu _
      rw [SlubWorld.update_tables_self]
      rfl
    · exact othersView_update cache _ world
  kept := by
    intro world places start
    rw [SlubWorld.update_tables_self]
    exact start
  printed := fun printing => absurd printing (by omega)
  headed := fun printing => absurd printing (by omega)

/-! ## The pass -/

/-- No header is printed. -/
def noHeader (_ : KmemCacheSLUB) : Except Halt PUnit :=
  .ok ⟨⟩

/-- The script of a pass at a low print level over a cache with the given
attributes. -/
def passScript (level fuel : Nat) (known : SlubTables) : SlubScript PUnit :=
  if level = 0 ∧ known.processed = true then pure ⟨⟩
  else do
    percpuScript system cache noHeader level fuel known
    .reading (nodesRead system cache)

variable {system cache}

section Pass

variable {header : SlabSLUB -> SlubM PUnit} {level : Nat} (quiet : level < 2)

include quiet

/-- What comes after the scan needs the lists of the nodes, and leaves the
portion of the scan alone. -/
theorem finish_enacts_local (filled : SlubTables) :
    Enacts (localView cache) performLocal
      (fun world => percpu (world.tables cache.address) = filled)
      (.reading (nodesRead system cache))
      (fun _ _ world => (world.tables cache.address).processed = true ∧
        percpu (world.tables cache.address) = filled)
      (finish system cache header level) := by
  have hidden : forall world : SlubWorld, percpu (world.tables cache.address) = filled ->
      localView cache (world.update cache.address fun tables => { tables with processed := true }) =
        localView cache world := by
    intro world same
    apply Prod.ext
    · change percpu _ = percpu _
      rw [SlubWorld.update_tables_self]
      rfl
    · exact othersView_update cache _ world
  have enacts := finish_enacts (local_nodeShows system cache header quiet noHeader filled)
    (filled.cpuSlabsFree + filled.cpuFreelists.length) filled.cpuSlabs.length
    (fun tables same => same ▸ rfl) (fun tables same => same ▸ rfl) hidden
  apply Enacts.sketched (enacts.weaken (fun _ start => start) _)
    (finishScript_sketches system cache (Nat.lt_succ_of_lt quiet) _ _)
  · rintro action shown ⟨report, rfl⟩
    rfl
  · rintro outcome value world ⟨_, before, same, rfl⟩
    rw [SlubWorld.update_tables_self]
    exact ⟨rfl, same⟩

/-- A pass at a low print level. -/
theorem processAllWith_enacts_local (fuel : Nat) (known : SlubTables) :
    Enacts (localView cache) performLocal (fun world => world.tables cache.address = known)
      (passScript system cache level fuel known)
      (fun _ _ world => (world.tables cache.address).processed = true)
      (processAllWith system cache header level fuel) := by
  rw [processAllWith_eq]
  apply consults
  intro found
  apply Enacts.knowing (fun world start => (And.left start).symm.trans (And.right start))
  rintro rfl
  simp only [passScript]
  by_cases idle : level = 0 ∧ found.processed = true
  · rw [if_pos idle, if_pos idle]
    apply Enacts.returns
    rintro world ⟨rfl, _⟩
    exact idle.2
  · rw [if_neg idle, if_neg idle]
    intro world start
    have scanned : Enacts (localView cache) performLocal _ _ _
        (processPercpu system cache header level fuel) :=
      (processPercpu_enacts (local_shows system cache header quiet noHeader) fuel world.tables
        trivial).remembering (localView cache world)
    rw [start.1] at scanned
    refine (scanned.andThen ?_) world ⟨rfl, rfl⟩
    intro _ _ _
    apply (finish_enacts_local quiet _).weaken
    · rintro after ⟨shown, _⟩
      exact congrArg Prod.fst shown
    · exact fun _ _ _ finished => finished.1

end Pass

/-- `slub_process_once` makes a quiet pass, which leaves a processed cache alone. -/
theorem slubProcessOnce_enacts (system : SlubSystem) (cache : KmemCacheSLUB) (fuel : Nat)
    (known : SlubTables) :
    Enacts (localView cache) performLocal (fun world => world.tables cache.address = known)
      (passScript system cache 0 fuel known)
      (fun _ _ world => (world.tables cache.address).processed = true)
      (slubProcessOnce system fuel cache) := by
  apply consults
  intro found
  apply Enacts.knowing (fun world start => (And.left start).symm.trans (And.right start))
  rintro rfl
  cases flag : found.processed with
  | true =>
      unfold passScript
      rw [if_pos ⟨rfl, flag⟩, if_pos rfl]
      apply Enacts.returns
      rintro world ⟨rfl, _⟩
      exact flag
  | false =>
      rw [if_neg Bool.false_ne_true, ← Script.bind_pure (passScript system cache 0 fuel found)]
      refine Enacts.starting (fun world start => And.right start) ?_
      exact (processAllWith_enacts_local (Nat.zero_lt_two) fuel found).discarding

/-! ## Headers in a scan -/

section Headers

variable (system cache)

/-- How the header of a slab ends in the scan of a cache, given the objects of
the caches at its start and the cache of the slab.  When a header is printed,
slabs of the scanned cache are known. -/
def headerOutcome (fuel : Nat) (start : Nat -> SlubTables) (other : KmemCacheSLUB) :
    Except Halt PUnit :=
  if other.address = cache.address then
    if (start cache.address).processed = true then .ok ⟨⟩ else nodesRead system cache
  else (passScript system other 0 fuel (start other.address)).ending

/-- The other caches are as they were at the start of the scan, unless a header
has processed them.  The same holds of the flag of the scanned cache. -/
structure Undisturbed (fuel : Nat) (start tables : Nat -> SlubTables) : Prop where
  others : forall other, system.caches other.address = some other -> other.address ≠ cache.address ->
    tables other.address = start other.address ∨ ((tables other.address).processed = true ∧
      headerOutcome system cache fuel start other = .ok ⟨⟩)
  own : (tables cache.address).processed = (start cache.address).processed ∨
    ((tables cache.address).processed = true ∧
      headerOutcome system cache fuel start cache = .ok ⟨⟩)

variable {system cache} {fuel : Nat} {start : Nat -> SlubTables}

theorem undisturbed_elsewhere : Elsewhere cache (Undisturbed system cache fuel start) := by
  intro tables others same flag undisturbed
  constructor
  · intro other registered different
    rw [same other.address different]
    exact undisturbed.others other registered different
  · rw [flag]
    exact undisturbed.own

/-- A pass over a processed cache ends well. -/
theorem passScript_processed {known : SlubTables} (processed : known.processed = true) :
    passScript system cache 0 fuel known = pure ⟨⟩ := by
  unfold passScript
  rw [if_pos ⟨rfl, processed⟩]

/-- A quiet pass does not scan a cache of which slabs are known. -/
theorem percpuScript_known {outcome : KmemCacheSLUB -> Except Halt PUnit} {known : SlubTables}
    (slabs : known.cpuSlabs ≠ []) : percpuScript system cache outcome 0 fuel known = pure ⟨⟩ := by
  unfold percpuScript
  rw [if_pos ⟨List.isEmpty_eq_false_iff.mpr slabs, rfl⟩]

/-- What the view of the other caches says of one of them. -/
theorem tables_of_othersView {before after : SlubWorld}
    (same : othersView cache after = othersView cache before) {address : Nat}
    (different : address ≠ cache.address) : after.tables address = before.tables address := by
  have here := congrFun same address
  simp only [othersView] at here
  rw [if_neg different, if_neg different] at here
  exact here

theorem performed_local (actions : List ScanAction) (view : SlubTables × (Nat -> SlubTables)) :
    performed performLocal actions view = (performed performPercpu actions view.1, view.2) := by
  simp only [performed]
  induction actions generalizing view with
  | nil => rfl
  | cons action rest inductionHypothesis =>
      rw [List.foldl_cons, List.foldl_cons]
      exact inductionHypothesis (performLocal action view)

/-- The header of a slab of another cache. -/
theorem header_other {slab : SlabSLUB}
    (registered : system.caches slab.kmemCache.address = some slab.kmemCache)
    (different : slab.kmemCache.address ≠ cache.address) (filled : SlubTables) :
    Enacts (percpuView cache) performPercpu
      (fun world => Undisturbed system cache fuel start world.tables ∧
        percpu (world.tables cache.address) = filled)
      (.reading (headerOutcome system cache fuel start slab.kmemCache))
      (fun _ _ world => Undisturbed system cache fuel start world.tables ∧
        percpu (world.tables cache.address) = filled)
      (longHeader system fuel slab) := by
  intro world ready
  have run := slubProcessOnce_enacts system slab.kmemCache fuel _ world rfl
  have ending : (passScript system slab.kmemCache 0 fuel
      (world.tables slab.kmemCache.address)).ending =
      headerOutcome system cache fuel start slab.kmemCache := by
    rcases ready.1.others _ registered different with same | done
    · simp only [headerOutcome]
      rw [if_neg different, same]
    · rw [passScript_processed done.1, done.2]
      rfl
  rw [performed_local, ending] at run
  cases ended : headerOutcome system cache fuel start slab.kmemCache with
  | error error =>
      rw [ended] at run
      rcases run with ⟨after, ran, shown⟩
      refine ⟨after, ran, ?_⟩
      simp only [percpuView]
      rw [tables_of_othersView (congrArg Prod.snd shown) different.symm]
      rfl
  | ok done =>
      rw [ended] at run
      rcases run with ⟨_, after, ran, shown, processed⟩
      have same : forall address, address ≠ slab.kmemCache.address ->
          after.tables address = world.tables address :=
        fun address other => tables_of_othersView (congrArg Prod.snd shown) other
      refine ⟨⟨⟩, after, ran, ?_, ⟨?_, ?_⟩, ?_⟩
      · simp only [percpuView]
        rw [same _ different.symm]
        rfl
      · intro other known elsewhere
        by_cases here : other.address = slab.kmemCache.address
        · rw [here] at known
          have equal : slab.kmemCache = other := Option.some.inj (registered.symm.trans known)
          rw [← equal]
          exact .inr ⟨processed, ended⟩
        · rw [same _ here]
          exact ready.1.others other known elsewhere
      · rw [same _ different.symm]
        exact ready.1.own
      · rw [same _ different.symm]
        exact ready.2

/-- The header of a slab of the scanned cache. -/
theorem header_own {slab : SlabSLUB} (own : slab.kmemCache = cache) {filled : SlubTables}
    (held : filled.cpuSlabs ≠ []) :
    Enacts (percpuView cache) performPercpu
      (fun world => Undisturbed system cache fuel start world.tables ∧
        percpu (world.tables cache.address) = filled)
      (.reading (headerOutcome system cache fuel start slab.kmemCache))
      (fun _ _ world => Undisturbed system cache fuel start world.tables ∧
        percpu (world.tables cache.address) = filled)
      (longHeader system fuel slab) := by
  simp only [longHeader]
  rw [own]
  intro world ready
  have slabs : (world.tables cache.address).cpuSlabs ≠ [] := by
    have same := congrArg SlubTables.cpuSlabs ready.2
    change (world.tables cache.address).cpuSlabs = filled.cpuSlabs at same
    rw [same]
    exact held
  have run := slubProcessOnce_enacts system cache fuel _ world rfl
  have quiet : passScript system cache 0 fuel (world.tables cache.address) =
      .reading (headerOutcome system cache fuel start cache) := by
    cases flag : (world.tables cache.address).processed with
    | true =>
        rw [passScript_processed flag]
        rcases ready.1.own with same | done
        · unfold headerOutcome
          rw [if_pos rfl, if_pos (same.symm.trans flag)]
          rfl
        · rw [done.2]
          rfl
    | false =>
        have unprocessed : ¬ (start cache.address).processed = true := by
          rcases ready.1.own with same | done
          · rw [← same, flag]
            exact Bool.false_ne_true
          · exact absurd (flag.symm.trans done.1) Bool.false_ne_true
        unfold passScript headerOutcome
        rw [if_pos rfl, if_neg unprocessed, percpuScript_known slabs,
          if_neg fun both => Bool.false_ne_true (flag.symm.trans both.2)]
        rfl
  rw [quiet] at run
  cases ended : headerOutcome system cache fuel start cache with
  | error error =>
      rw [ended] at run
      rcases run with ⟨after, ran, shown⟩
      exact ⟨after, ran, congrArg Prod.fst shown⟩
  | ok done =>
      rw [ended] at run
      rcases run with ⟨_, after, ran, shown, processed⟩
      refine ⟨⟨⟩, after, ran, congrArg Prod.fst shown, ⟨?_, ?_⟩, ?_⟩
      · intro other known elsewhere
        rw [tables_of_othersView (congrArg Prod.snd shown) elsewhere]
        exact ready.1.others other known elsewhere
      · exact .inr ⟨processed, ended⟩
      · exact (congrArg Prod.fst shown).trans ready.2

/-- The scan of a known cache at any print level, in the view of the portion it
fills in. -/
theorem percpu_shows (known : system.caches cache.address = some cache) (level : Nat) :
    Shows system cache (percpuView cache) performPercpu (longHeader system fuel) level
      (headerOutcome system cache fuel start) (Undisturbed system cache fuel start) where
  faithful := percpu_faithful system cache
  elsewhere := undisturbed_elsewhere
  printed := by
    intro _ slab world
    simp only [percpuView]
    rw [populateFree_tables]
  headed := by
    intro _ slab registered filled held
    by_cases own : slab.kmemCache.address = cache.address
    · rw [own] at registered
      exact header_own (Option.some.inj (registered.symm.trans known)) held
    · exact header_other registered own filled

/-- Nothing has been disturbed at the start. -/
theorem undisturbed_initially (system : SlubSystem) (cache : KmemCacheSLUB) (fuel : Nat)
    (start : Nat -> SlubTables) : Undisturbed system cache fuel start start :=
  ⟨fun _ _ _ => .inl rfl, .inl rfl⟩

end Headers

end KmemCacheSLUB
end Slab
end CrashPython

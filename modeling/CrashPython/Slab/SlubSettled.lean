import CrashPython.Slab.SlubImage

namespace CrashPython
namespace Slab
namespace SlubImage

open Library Types KmemCacheSLUB

/-!
# Passes over a consistent image

On a consistent image no read fails, so that every pass comes to its end.  The
first scan fills the dictionaries with exactly what the image says of the
processors.  Later passes, and the passes that headers make, leave the portion of
the scan as it is, and all passes come to the same numbers.
-/

variable {image : SlubImage} {system : SlubSystem} {cache : KmemCacheSLUB}

/-! ## The script of the scan -/

/-- The actions of a scan.  Without filling it only reports. -/
def Kind (image : SlubImage) (cache : KmemCacheSLUB) (fill : Bool) : ScanAction -> Prop
  | .record _ _ => fill = true
  | .resize _ _ => fill = true
  | .hold slab _ => fill = true ∧ slab = image.slab cache slab.address
  | .report _ => True

theorem reportIf_kind (fill : Bool) (condition : Prop) [Decidable condition] (report : SlubReport) :
    Sketches (image.Kind cache fill)
      (if condition then .act (.report report) else pure ⟨⟩ : SlubScript PUnit) (.ok ⟨⟩) := by
  split
  · exact Sketches.act trivial
  · exact Sketches.returns _

/-- A value that can be read. -/
theorem glimpse_kind {Found Value : Type} {kind : ScanAction -> Prop} {read : Except GdbError Found}
    {found : Found} (there : read = .ok found) {script : Found -> SlubScript Value}
    {rest : Except Halt PUnit} (continues : Sketches kind (script found) rest) :
    Sketches kind (glimpse read >>= script) rest := by
  subst there
  exact continues

theorem locklessScript_kind {cpu remaining nrFree first : Nat} {chain : List Nat}
    (linked : NullTerminated (SlabSLUB.freePointer system cache) first chain) :
    Sketches (image.Kind cache true) (locklessScript system cache cpu remaining nrFree first)
      (.ok ⟨⟩) := by
  induction remaining generalizing nrFree first chain with
  | zero =>
      unfold locklessScript
      split
      · exact Sketches.returns _
      · exact (Sketches.act trivial).andThen fun _ _ => Sketches.returns _
  | succ remaining inductionHypothesis =>
      unfold locklessScript
      cases linked with
      | done => exact Sketches.returns _
      | node nonNull link onward =>
          rw [if_neg nonNull]
          have fits : image.Kind cache true (.record cpu first) := rfl
          apply (Sketches.act fits).andThen
          intro _ _
          exact glimpse_kind link (inductionHypothesis onward)

section Scan

variable (consistent : image.Consistent system cache)
variable {outcome : KmemCacheSLUB -> Except Halt PUnit} (good : outcome cache = .ok ⟨⟩)
variable {sizes level fuel cpu : Nat} {fill : Bool}

include consistent

theorem freelistScript_kind (online : cpu ∈ system.cpusOnline)
    (enough : system.cpusOnline.length ≤ sizes) {cpuSlab : KmemCacheCpu}
    (read : cache.cpuSlab cpu = .ok cpuSlab) :
    Sketches (image.Kind cache fill) (freelistScript system cache sizes fill cpu cpuSlab)
      (.ok ⟨⟩) := by
  have inside : indexed sizes cpu = .ok ⟨⟩ := by
    rw [consistent.cpus, List.mem_range] at online
    exact if_pos (Nat.lt_of_lt_of_le online enough)
  cases fill with
  | false => exact ⟨nofun, congrArg _ inside⟩
  | true =>
      have there := consistent.cpu cpu online
      rcases there.cpuSlab with ⟨found, same, page, ⟨first, freelist, chain⟩, _⟩
      cases Except.ok.inj (read.symm.trans same)
      have populated : Sketches (image.Kind cache true) (populateScript system cache cpu cpuSlab)
          (.ok ⟨⟩) := by
        unfold populateScript
        apply glimpse_kind freelist
        by_cases null : first = 0
        · rw [if_pos null]
          exact Sketches.returns _
        · have used := (there.own first (chain.first_mem null)).1
          have slab := consistent.slab _ (consistent.active_mem online used)
          rw [if_neg null]
          exact glimpse_kind page (glimpse_kind slab.nrObjects (locklessScript_kind chain))
      unfold freelistScript
      simp only [if_true]
      apply populated.andThen
      intro size _
      exact Sketches.finds inside (Sketches.act rfl)

theorem holdScript_kind {page : Nat} (member : page ∈ image.slabs) (place : CpuPlace) :
    Sketches (image.Kind cache fill) (holdScript system fill page place) (.ok ⟨⟩) := by
  have there := consistent.slab page member
  have made : halting (SlabSLUB.fromPageObj system page) = .ok (image.slab cache page) :=
    congrArg halting (there.fromPageObj consistent.known)
  unfold holdScript
  apply Sketches.finds made
  cases fill with
  | false => exact Sketches.returns _
  | true =>
      simp only [if_true]
      apply (Sketches.act ⟨rfl, rfl⟩).andThen
      intro _ _
      exact Sketches.finds there.freeObjects (Sketches.returns _)

/-- The wrapper that is held. -/
theorem holdScript_slab {page : Nat} (member : page ∈ image.slabs) {place : CpuPlace}
    {slab : SlabSLUB} (ended : (holdScript system fill page place).ending = .ok slab) :
    slab = image.slab cache page := by
  have there := consistent.slab page member
  have made := (holdScript_ok ended).1
  exact Except.ok.inj (made.symm.trans (there.fromPageObj consistent.known))

include good

omit consistent in
theorem headerScript_kind (least page : Nat) :
    Sketches (image.Kind cache fill) (headerScript outcome level least (image.slab cache page))
      (.ok ⟨⟩) := by
  unfold headerScript
  split
  · exact ⟨nofun, congrArg _ good⟩
  · exact Sketches.returns _

omit good in
theorem frozenScript_kind {page : Nat} (member : page ∈ image.slabs) (expected : Nat)
    (place : FrozenPlace) :
    Sketches (image.Kind cache fill)
      (SlabSLUB.frozenScript system (image.slab cache page) expected place) (.ok ⟨⟩) := by
  rcases (consistent.slab page member).frozen with ⟨frozen, read⟩
  exact glimpse_kind read (reportIf_kind fill _ _)

omit good in
theorem printScript_kind {page : Nat} (member : page ∈ image.slabs) :
    Sketches (image.Kind cache fill) (printScript system level fill (image.slab cache page))
      (.ok ⟨⟩) := by
  unfold printScript
  split
  · exact Sketches.finds (consistent.slab page member).freeObjects (Sketches.returns _)
  · exact Sketches.returns _

theorem activeScript_kind (online : cpu ∈ system.cpusOnline) {cpuSlab : KmemCacheCpu}
    (page : cpuSlab.page = .ok (image.active cpu)) :
    Sketches (image.Kind cache fill) (activeScript system outcome level fill cpu cpuSlab)
      (.ok ⟨⟩) := by
  unfold activeScript
  apply glimpse_kind page
  by_cases null : image.active cpu = 0
  · rw [if_pos null]
    exact Sketches.returns _
  · have member := consistent.active_mem online null
    rw [if_neg null]
    apply (holdScript_kind consistent member _).andThen
    intro slab held
    rw [holdScript_slab consistent member held]
    apply (headerScript_kind good 2 _).andThen
    intro _ _
    apply (frozenScript_kind consistent member _ _).andThen
    intro _ _
    exact printScript_kind consistent member

theorem visitScript_kind {page : Nat} (member : page ∈ image.slabs) :
    Sketches (image.Kind cache fill) (visitScript system outcome level fill cpu page)
      (.ok ⟨⟩) := by
  rcases (consistent.slab page member).pages with ⟨pages, counted⟩
  unfold visitScript
  apply (holdScript_kind consistent member _).andThen
  intro slab held
  rw [holdScript_slab consistent member held]
  apply glimpse_kind counted
  apply (headerScript_kind good 3 _).andThen
  intro _ _
  apply (printScript_kind consistent member).andThen
  intro _ _
  exact (frozenScript_kind consistent member _ _).andThen fun _ _ => Sketches.returns pages

theorem partialScript_kind {page : Nat} {slabs : List Nat} (inside : slabs ⊆ image.slabs)
    (chain : NullTerminated (nextLink system) page slabs) (short : slabs.length < fuel)
    (expected last : Int) :
    Sketches (image.Kind cache fill)
      (partialScript system cache outcome level fill cpu fuel page expected last) (.ok ⟨⟩) := by
  induction fuel generalizing page slabs expected last with
  | zero => exact False.elim (Nat.not_lt_zero _ short)
  | succ fuel inductionHypothesis =>
      unfold partialScript
      cases chain with
      | done =>
          rw [if_pos rfl]
          exact reportIf_kind fill _ _
      | node nonNull linked onward =>
          rw [if_neg nonNull]
          apply (visitScript_kind consistent good (inside List.mem_cons_self)).andThen
          intro pages _
          apply (reportIf_kind fill _ _).andThen
          intro _ _
          apply glimpse_kind linked
          apply inductionHypothesis _ onward (Nat.lt_of_succ_lt_succ short)
          exact fun other member => inside (List.mem_cons_of_mem _ member)

theorem cpuScript_kind (online : cpu ∈ system.cpusOnline)
    (enough : system.cpusOnline.length ≤ sizes) (short : image.slabs.length < fuel) :
    Sketches (image.Kind cache fill) (cpuScript system cache sizes outcome level fuel fill cpu)
      (.ok ⟨⟩) := by
  rcases (consistent.cpu cpu online).cpuSlab with ⟨cpuSlab, read, page, _, first, started, chain⟩
  have inside : image.onPartial cpu ⊆ image.slabs :=
    fun other member => consistent.onPartial_mem online member
  have few : (image.onPartial cpu).length ≤ image.slabs.length := by
    apply (List.subperm_of_subset _ inside).length_le
    have all := consistent.held_nodup
    unfold held at all
    exact (List.nodup_append.mp ((List.nodup_flatMap.mp all).1 cpu online)).2.1
  unfold cpuScript headScript
  simp only [Script.bind_assoc]
  apply Sketches.finds (congrArg halting read)
  apply (freelistScript_kind consistent online enough read).andThen
  intro _ _
  apply (activeScript_kind consistent good online page).andThen
  intro _ _
  apply glimpse_kind started
  unfold tailScript
  by_cases null : first = 0
  · rw [if_pos null]
    exact Sketches.returns _
  · rw [if_neg null]
    rcases (consistent.slab first (inside (chain.first_mem null))).pages with ⟨expected, counted⟩
    apply glimpse_kind counted
    exact partialScript_kind consistent good inside chain (Nat.lt_of_le_of_lt few short) _ _

/-- The scan of a consistent image comes to its end. -/
theorem scanScript_kind (enough : system.cpusOnline.length ≤ sizes)
    (short : image.slabs.length < fuel) :
    Sketches (image.Kind cache fill) (scanScript system cache sizes outcome level fuel fill)
      (.ok ⟨⟩) :=
  Sketches.loop fun _ online => cpuScript_kind consistent good online enough short

end Scan

/-! ## What the scan finds -/

/-- The parts of a list without repetitions are disjoint. -/
theorem disjoint_of_nodup_flatMap {Item Value : Type} {items : List Item}
    {parts : Item -> List Value} (distinct : (items.flatMap parts).Nodup) {first second : Item}
    (inFirst : first ∈ items) (inSecond : second ∈ items) (different : first ≠ second) :
    (parts first).Disjoint (parts second) := by
  have symmetric : Std.Symm (Function.onFun List.Disjoint parts) :=
    ⟨fun _ _ disjoint => disjoint.symm⟩
  exact (List.nodup_flatMap.mp distinct).2.forall inFirst inSecond different

/-- Actions that only report find nothing. -/
theorem plain_of_kind {actions : List ScanAction}
    (kinds : forall action, action ∈ actions -> image.Kind cache false action) : Plain actions := by
  constructor
  · apply List.filterMap_eq_nil_iff.mpr
    intro action taken
    have kind := kinds action taken
    cases action with
    | record cpu obj => cases kind
    | resize cpu size => rfl
    | hold slab place => rfl
    | report report => rfl
  · apply List.filterMap_eq_nil_iff.mpr
    intro action taken
    have kind := kinds action taken
    cases action with
    | record cpu obj => rfl
    | resize cpu size => rfl
    | hold slab place => cases kind.1
    | report report => rfl

section Finds

variable (consistent : image.Consistent system cache)

include consistent

/-- What a processor holds is what the image says. -/
theorem Consistent.holds {cpu active : Nat} {objects slabs : List Nat}
    (online : cpu ∈ system.cpusOnline) (holds : CpuHolds system cache cpu objects active slabs) :
    objects = image.lockless cpu ∧ active = image.active cpu ∧ slabs = image.onPartial cpu := by
  rcases holds with ⟨cpuSlab, read, ⟨ending, walked, _⟩, page, first, started, chain⟩
  rcases consistent.lockless online with ⟨found, again, rewalked⟩
  cases Except.ok.inj (read.symm.trans again)
  rcases (consistent.cpu cpu online).cpuSlab with ⟨found, again, same, _, other, restarted, onward⟩
  cases Except.ok.inj (read.symm.trans again)
  cases Except.ok.inj (started.symm.trans restarted)
  have walk := Except.ok.inj (walked.symm.trans rewalked)
  exact ⟨congrArg Prod.fst walk, Except.ok.inj (page.symm.trans same), chain.unique onward⟩

/-- Different slabs have different objects. -/
theorem Consistent.objects_apart {first second : Nat} (inside : first ∈ image.slabs)
    (other : second ∈ image.slabs) (different : first ≠ second) {obj : Int}
    (member : obj ∈ image.objects system cache first) : obj ∉ image.objects system cache second := by
  exact disjoint_of_nodup_flatMap consistent.apart inside other different member

/-- No object is on the chains of two processors. -/
theorem Consistent.cached_nodup : (image.cached system).Nodup := by
  have cpus : system.cpusOnline.Nodup := by
    rw [consistent.cpus]
    exact List.nodup_range
  have all := consistent.held_nodup
  unfold held at all
  apply List.nodup_flatMap.mpr
  refine ⟨fun cpu online => (consistent.cpu cpu online).distinct, ?_⟩
  apply cpus.pairwise_of_forall_ne
  intro first inFirst second inSecond different obj onFirst onSecond
  have own := (consistent.cpu first inFirst).own obj onFirst
  have other := (consistent.cpu second inSecond).own obj onSecond
  have holdsActive : forall cpu, image.active cpu ≠ 0 ->
      image.active cpu ∈ KmemCacheSLUB.holdings (image.active cpu) (image.onPartial cpu) := by
    intro cpu nonNull
    unfold KmemCacheSLUB.holdings
    rw [if_neg nonNull]
    exact List.mem_append_left _ List.mem_cons_self
  have slabs : image.active first ≠ image.active second := by
    intro same
    apply disjoint_of_nodup_flatMap all inFirst inSecond different (holdsActive first own.1)
    rw [same]
    exact holdsActive second other.1
  exact consistent.objects_apart (consistent.active_mem inFirst own.1)
    (consistent.active_mem inSecond other.1) slabs own.2 other.2

/-- Where no processor holds a slab, no object is on a chain. -/
theorem Consistent.cached_of_held (none : image.held system = []) : image.cached system = [] := by
  apply List.flatMap_eq_nil_iff.mpr
  intro cpu online
  apply List.eq_nil_iff_forall_not_mem.mpr
  intro obj member
  have own := (consistent.cpu cpu online).own obj member
  have nothing := List.flatMap_eq_nil_iff.mp none cpu online
  unfold KmemCacheSLUB.holdings at nothing
  rw [if_neg own.1] at nothing
  cases nothing

variable {outcome : KmemCacheSLUB -> Except Halt PUnit} (good : outcome cache = .ok ⟨⟩)
variable {sizes fuel : Nat} (enough : system.cpusOnline.length ≤ sizes)
  (short : image.slabs.length < fuel) (level : Nat)

include good enough short

theorem scanScript_ends (fill : Bool) :
    (scanScript system cache sizes outcome level fuel fill).ending = .ok ⟨⟩ := by
  have kinds : Sketches (image.Kind cache fill)
      (scanScript system cache sizes outcome level fuel fill) (.ok ⟨⟩) :=
    scanScript_kind consistent good enough short
  exact kinds.ends

/-- A filling scan finds what the image says, in the order of the image. -/
theorem scanScript_finds :
    recordedObjects (scanScript system cache sizes outcome level fuel true).actions =
        image.cached system ∧
      heldPages (scanScript system cache sizes outcome level fuel true).actions =
        image.held system := by
  have ended : (scanScript system cache sizes outcome level fuel true).ending = .ok ⟨⟩ :=
    scanScript_ends consistent good enough short level true
  have all : (scanScript system cache sizes outcome level fuel true).actions = _ :=
    Script.forM_actions ended
  have each : forall cpu, cpu ∈ system.cpusOnline ->
      recordedObjects (cpuScript system cache sizes outcome level fuel true cpu).actions =
          image.lockless cpu ∧
        heldPages (cpuScript system cache sizes outcome level fuel true cpu).actions =
          KmemCacheSLUB.holdings (image.active cpu) (image.onPartial cpu) := by
    intro cpu online
    rcases cpuScript_ok (Script.forM_ending_ok.mp ended cpu online) with
      ⟨objects, active, slabs, holds, rest, actions, unrecorded, held⟩
    rcases consistent.holds online holds with ⟨rfl, rfl, rfl⟩
    rw [actions, recordedObjects_append, heldPages_append, recordedObjects_map, heldPages_map,
      unrecorded, held]
    exact ⟨List.append_nil _, rfl⟩
  rw [all, recordedObjects_flatMap, heldPages_flatMap]
  exact ⟨List.flatMap_congr fun cpu online => (each cpu online).1,
    List.flatMap_congr fun cpu online => (each cpu online).2⟩

/-- The slabs that a filling scan finds, with their free objects. -/
theorem scanScript_free :
    ((heldSlabs (scanScript system cache sizes outcome level fuel true).actions).map
      SlabSLUB.nrFree).sum =
      ((image.held system).map fun page => (image.slab cache page).nrFree).sum := by
  have kinds : Sketches (image.Kind cache true)
      (scanScript system cache sizes outcome level fuel true) (.ok ⟨⟩) :=
    scanScript_kind consistent good enough short
  have same : forall slab, slab ∈ heldSlabs (scanScript system cache sizes outcome level fuel
      true).actions -> slab = image.slab cache slab.address := by
    intro slab member
    rcases List.mem_filterMap.mp member with ⟨action, taken, shown⟩
    have kind := kinds.1 action taken
    cases action with
    | hold other place =>
        cases shown
        exact kind.2
    | record cpu obj => cases shown
    | resize cpu size => cases shown
    | report report => cases shown
  rw [← (scanScript_finds consistent good enough short level).2, heldPages_eq_map, List.map_map]
  congr 1
  apply List.map_congr_left
  intro slab member
  exact congrArg SlabSLUB.nrFree (same slab member)

/-- A scan that does not fill in finds nothing. -/
theorem scanScript_checks :
    Plain (scanScript system cache sizes outcome level fuel false).actions := by
  have kinds : Sketches (image.Kind cache false)
      (scanScript system cache sizes outcome level fuel false) (.ok ⟨⟩) :=
    scanScript_kind consistent good enough short
  exact plain_of_kind kinds.1

end Finds

/-! ## The lists of the nodes -/

section Totals

variable (image system cache)

/-- The free objects of slabs. -/
def nrFreeOf (pages : List Nat) : Int :=
  (pages.map fun page => (image.slab cache page).nrFree).sum

/-- The numbers with those of one more node. -/
def addNode (totals : NodeTotals) (node : NodeImage) : NodeTotals :=
  ⟨totals.nrSlabs + node.nrSlabs, totals.nrPartial + node.nrPartial, totals.nrObjs + node.nrObjs,
    totals.nrFreeObjs + image.nrFreeOf cache node.onPartial,
    totals.nrFullList + node.onFull.length⟩

/-- The numbers with those of one more node number. -/
def addNid (totals : NodeTotals) (nid : Nat) : NodeTotals :=
  (image.node nid).elim totals (image.addNode cache totals)

/-- The numbers of a pass over the image. -/
def totals : Totals :=
  let counted := system.nidsPossible.foldl (image.addNid cache)
    { nrFreeObjs := image.nrFreeOf cache (image.held system) + (image.cached system).length }
  let nrPercpu : Int := (image.held system).length
  ⟨counted.nrSlabs, counted.nrPartial, nrPercpu, counted.nrSlabs - counted.nrPartial - nrPercpu,
    counted.nrObjs, counted.nrFreeObjs⟩

end Totals

/-- Counting pages one by one. -/
theorem foldl_number (pages : List Nat) (first : Int) :
    pages.foldl (fun counted _ => counted + 1) first = first + pages.length := by
  induction pages generalizing first with
  | nil => simp
  | cons page rest inductionHypothesis =>
      rw [List.foldl_cons, inductionHypothesis, List.length_cons]
      omega

/-- Counting pages and adding their free objects. -/
theorem foldl_counted (pages : List Nat) (first second : Int) :
    pages.foldl (fun counted page =>
      (counted.1 + 1, counted.2 + (image.slab cache page).nrFree)) (first, second) =
      (first + pages.length, second + image.nrFreeOf cache pages) := by
  induction pages generalizing first second with
  | nil => simp [nrFreeOf]
  | cons page rest inductionHypothesis =>
      have split : image.nrFreeOf cache (page :: rest) =
          (image.slab cache page).nrFree + image.nrFreeOf cache rest := rfl
      rw [List.foldl_cons, inductionHypothesis, List.length_cons, split]
      apply Prod.ext
      · change first + 1 + (rest.length : Int) = first + (rest.length + 1 : Nat)
        omega
      · exact Int.add_assoc _ _ _

theorem reportIf_ends (condition : Prop) [Decidable condition] (report : SlubReport) :
    (if condition then .act (.report report) else pure ⟨⟩ : SlubScript PUnit).ending = .ok ⟨⟩ := by
  split
  · rfl
  · rfl

section Nodes

variable (consistent : image.Consistent system cache)
variable {outcome : KmemCacheSLUB -> Except Halt PUnit} (good : outcome cache = .ok ⟨⟩)
variable {level : Nat}

include consistent good

theorem visitNodeScript_ends {page : Nat} (member : page ∈ image.slabs) (place : NodePlace) :
    (visitNodeScript system cache outcome level place (page + system.lruOffset)).ending =
      .ok (image.slab cache page) := by
  have made := congrArg halting (consistent.slab page member).fromListHead
  have header : Sketches (image.Kind cache false)
      (headerScript outcome level 3 (image.slab cache page)) _ := headerScript_kind good 3 page
  have printed : Sketches (image.Kind cache false)
      (printScript system level false (image.slab cache page)) _ :=
    printScript_kind consistent member
  have warned : Sketches (image.Kind cache false) _ _ :=
    frozenScript_kind consistent member 0 (.node place)
  apply Script.bind_ends made
  apply Script.bind_ends header.ends
  apply Script.bind_ends printed.ends
  apply Script.bind_ends warned.ends
  rfl

/-- A walk along a list of a node. -/
theorem nodeList_ends {Counted : Type} {head : Nat} {pages : List Nat}
    (listed : Listed system head pages) (inside : pages ⊆ image.slabs) (level : Nat)
    (place : NodePlace) (count : Counted -> SlabSLUB -> Counted) (carried : Counted) :
    ((yieldedNodes (listRun system.lists.image {} head).events).foldlM (fun counted listHead => do
      let slab <- visitNodeScript system cache outcome level place listHead
      return count counted slab : Counted -> Nat -> SlubScript Counted) carried).ending =
        .ok (pages.foldl (fun counted page => count counted (image.slab cache page)) carried) ∧
      (listRun system.lists.image {} head).ending = .completed := by
  have ring := listRun_ring listed.1 listed.2 rfl
  refine ⟨?_, ring.2⟩
  rw [ring.1, List.foldlM_map]
  apply Script.foldlM_ends
  intro counted page member
  exact Script.bind_ends (visitNodeScript_ends consistent good (inside member) place) rfl

theorem nodePartialScript_ends {nid : Nat} {node : KmemCacheNode} {pages : List Nat}
    (listed : Listed system node.partialList pages) (inside : pages ⊆ image.slabs)
    (nrFreeObjs : Int) :
    (nodePartialScript system cache outcome level nid node nrFreeObjs).ending =
      .ok ((pages.length : Int), nrFreeObjs + image.nrFreeOf cache pages) := by
  have walk := nodeList_ends consistent good listed inside level (.onPartial nid)
    (fun counted slab => ((counted.1 + 1, counted.2 + slab.nrFree) : Int × Int)) (0, nrFreeObjs)
  rw [foldl_counted, Int.zero_add] at walk
  unfold nodePartialScript
  apply Script.bind_ends walk.1
  rw [walk.2]
  rfl

theorem nodeFullScript_ends {nid : Nat} {node : KmemCacheNode} {pages : List Nat}
    (listed : Listed system node.fullList pages) (inside : pages ⊆ image.slabs) :
    (nodeFullScript system cache outcome level nid node).ending = .ok (pages.length : Int) := by
  have walk := nodeList_ends consistent good listed inside level (.full nid)
    (fun counted _ => counted + 1) (0 : Int)
  rw [foldl_number, Int.zero_add] at walk
  unfold nodeFullScript
  apply Script.bind_ends walk.1
  rw [walk.2]
  rfl

theorem nidScript_ends {nid : Nat} (possible : nid ∈ system.nidsPossible) (totals : NodeTotals) :
    (nidScript system cache outcome level totals nid).ending = .ok (image.addNid cache totals nid) := by
  have there := consistent.node nid possible
  unfold nidScript addNid
  cases found : image.node nid with
  | none =>
      apply Script.bind_ends (congrArg (fun read => halting (fetched read)) (there.absent found))
      rfl
  | some node =>
      rcases there.present node found with
        ⟨node', read, nrSlabs, nrObjs, expected, onPartial, onFull, full⟩
      have insidePartial : node.onPartial ⊆ image.slabs :=
        fun page member => consistent.listed_mem possible found member
      have insideFull : node.onFull ⊆ image.slabs :=
        fun page member => consistent.mem_slabs.mpr (.inr (.inr (full member)))
      apply Script.bind_ends (congrArg (fun read => halting (fetched read)) read)
      unfold nodeScript
      apply Script.bind_ends (congrArg (fun read => halting (fetched read)) nrSlabs)
      apply Script.bind_ends (congrArg (fun read => halting (fetched read)) nrObjs)
      apply Script.bind_ends (congrArg (fun read => halting (fetched read)) expected)
      apply Script.bind_ends (nodePartialScript_ends consistent good onPartial insidePartial _)
      apply Script.bind_ends (reportIf_ends _ _)
      apply Script.bind_ends (nodeFullScript_ends consistent good onFull insideFull)
      apply Script.bind_ends (reportIf_ends _ _)
      rfl

/-- What comes after the scan comes to the numbers of the image. -/
theorem finishScript_ends :
    (finishScript system cache outcome level
      (image.nrFreeOf cache (image.held system) + (image.cached system).length)
      (image.held system).length).ending = .ok (some (image.totals system cache)) := by
  have nids : halting (forEachNid system) = .ok system.nidsPossible := by
    unfold forEachNid
    rw [if_neg consistent.nids]
    rfl
  unfold finishScript
  apply Script.bind_ends nids
  apply Script.bind_ends (Script.foldlM_ends
    (fun totals nid possible => nidScript_ends consistent good possible totals) _)
  apply Script.bind_ends (reportIf_ends _ _)
  rfl

omit good in
/-- All reads along the lists of the nodes succeed. -/
theorem nodesRead_ok : nodesRead system cache = .ok ⟨⟩ := by
  have sketches : Sketches Reports (finishScript system cache noHeader 0
      (image.nrFreeOf cache (image.held system) + (image.cached system).length)
      (image.held system).length) (nodesRead system cache) :=
    finishScript_sketches system cache (by decide) _ _
  rw [← sketches.2, finishScript_ends consistent rfl]
  rfl

end Nodes

/-! ## The dictionaries -/

/-- The dictionaries have what the image says of the processors. -/
structure Filled (image : SlubImage) (system : SlubSystem) (cache : KmemCacheSLUB)
    (tables : SlubTables) : Prop where
  slabs : tables.cpuSlabs.map Prod.fst = image.held system
  free : tables.cpuSlabsFree = image.nrFreeOf cache (image.held system)
  freelists : tables.cpuFreelists.map Prod.fst = image.cached system

/-- Nothing has been filled in yet. -/
structure Unfilled (tables : SlubTables) : Prop where
  slabs : tables.cpuSlabs = []
  free : tables.cpuSlabsFree = 0
  freelists : tables.cpuFreelists = []
  unprocessed : tables.processed = false

/-- The dictionaries are filled in completely or not at all. -/
structure Settled (image : SlubImage) (system : SlubSystem) (cache : KmemCacheSLUB)
    (tables : SlubTables) : Prop where
  sizes : tables.cpuFreelistsSizes.length = system.cpusOnline.length
  filled : Unfilled tables ∨ image.Filled system cache tables

theorem freshTables_settled : image.Settled system cache (freshTables system) :=
  ⟨List.length_replicate, .inl ⟨rfl, rfl, rfl, rfl⟩⟩

namespace Settled

variable {known : SlubTables} (settled : image.Settled system cache known)

include settled

theorem of_slabs (slabs : known.cpuSlabs ≠ []) : image.Filled system cache known := by
  rcases settled.filled with unfilled | filled
  · exact False.elim (slabs unfilled.slabs)
  · exact filled

theorem of_processed (processed : known.processed = true) : image.Filled system cache known := by
  rcases settled.filled with unfilled | filled
  · exact Bool.noConfusion (unfilled.unprocessed.symm.trans processed)
  · exact filled

/-- Where no slab is known, nothing is. -/
theorem empty (consistent : image.Consistent system cache) (none : known.cpuSlabs = []) :
    known.cpuFreelists = [] ∧ known.cpuSlabsFree = 0 := by
  rcases settled.filled with unfilled | filled
  · exact ⟨unfilled.freelists, unfilled.free⟩
  · have held := filled.slabs
    have freelists := filled.freelists
    have free := filled.free
    rw [none, List.map_nil] at held
    rw [consistent.cached_of_held held.symm] at freelists
    rw [← held] at free
    exact ⟨List.map_eq_nil_iff.mp freelists, free⟩

/-- Tables with a portion that was filled in completely. -/
theorem of_percpu {after : SlubTables} {actions : List ScanAction}
    (portion : percpu after = performed performPercpu actions (percpu known))
    (filled : image.Filled system cache (performed performPercpu actions (percpu known))) :
    image.Settled system cache after ∧ image.Filled system cache after := by
  have complete : image.Filled system cache after := by
    rw [← portion] at filled
    exact ⟨filled.slabs, filled.free, filled.freelists⟩
  refine ⟨⟨?_, .inr complete⟩, complete⟩
  have sizes := congrArg (fun tables => tables.cpuFreelistsSizes.length) portion
  simp only [performed_sizes] at sizes
  simp only [percpu, List.length_replicate] at sizes
  rw [sizes]
  exact settled.sizes

end Settled

/-! ## Passes -/

section Passes

variable (consistent : image.Consistent system cache)
variable {fuel : Nat} (short : image.slabs.length < fuel)

include consistent short

/-- The scan of a pass, in the portion that it fills in. -/
theorem percpuScript_settled {outcome : KmemCacheSLUB -> Except Halt PUnit}
    (good : outcome cache = .ok ⟨⟩) {known : SlubTables}
    (settled : image.Settled system cache known) (level : Nat) :
    (percpuScript system cache outcome level fuel known).ending = .ok ⟨⟩ ∧
      image.Filled system cache (performed performPercpu
        (percpuScript system cache outcome level fuel known).actions (percpu known)) ∧
      (image.Filled system cache known -> performed performPercpu
        (percpuScript system cache outcome level fuel known).actions (percpu known) =
          percpu known) := by
  have enough : system.cpusOnline.length ≤ known.cpuFreelistsSizes.length :=
    Nat.le_of_eq settled.sizes.symm
  unfold percpuScript
  by_cases none : known.cpuSlabs = []
  · rw [none]
    simp only [List.isEmpty_nil, Bool.true_eq_false, false_and, if_false]
    have finds := scanScript_finds consistent good enough short level
    have empty := settled.empty consistent none
    have objects : ((percpu known).cpuFreelists.map Prod.fst ++ recordedObjects (scanScript system
        cache known.cpuFreelistsSizes.length outcome level fuel true).actions).Nodup := by
      rw [finds.1, percpu, empty.1]
      exact consistent.cached_nodup
    have slabs : ((percpu known).cpuSlabs.map Prod.fst ++ heldPages (scanScript system
        cache known.cpuFreelistsSizes.length outcome level fuel true).actions).Nodup := by
      rw [finds.2, percpu, none]
      exact consistent.held_nodup
    have entered := performed_distinct objects slabs
    refine ⟨scanScript_ends consistent good enough short level true, ⟨?_, ?_, ?_⟩, ?_⟩
    · rw [entered.2.1, finds.2, percpu, none]
      rfl
    · rw [entered.2.2, scanScript_free consistent good enough short level, percpu, empty.2]
      exact Int.zero_add _
    · rw [entered.1, finds.1, percpu, empty.1]
      rfl
    · intro filled
      have held := filled.slabs
      rw [none, List.map_nil] at held
      apply performed_plain
      exact ⟨finds.1.trans (consistent.cached_of_held held.symm), finds.2.trans held.symm⟩
  · have filled := settled.of_slabs none
    have portion : image.Filled system cache (percpu known) :=
      ⟨filled.slabs, filled.free, filled.freelists⟩
    rw [List.isEmpty_eq_false_iff.mpr none]
    by_cases quiet : level = 0
    · simp only [quiet, and_self, if_true]
      exact ⟨rfl, portion, fun _ => rfl⟩
    · simp only [quiet, and_false, if_false]
      have plain := performed_plain (scanScript_checks consistent good enough short level)
        (percpu known)
      refine ⟨scanScript_ends consistent good enough short level false, ?_, fun _ => plain⟩
      rw [plain]
      exact portion

/-- A quiet pass, in the portion that the scan fills in. -/
theorem passScript_settled {known : SlubTables} (settled : image.Settled system cache known)
    (level : Nat) :
    (passScript system cache level fuel known).ending = .ok ⟨⟩ ∧
      image.Filled system cache (performed performPercpu
        (passScript system cache level fuel known).actions (percpu known)) ∧
      (image.Filled system cache known -> performed performPercpu
        (passScript system cache level fuel known).actions (percpu known) = percpu known) := by
  unfold passScript
  by_cases idle : level = 0 ∧ known.processed = true
  · have filled := settled.of_processed idle.2
    rw [if_pos idle]
    exact ⟨rfl, ⟨filled.slabs, filled.free, filled.freelists⟩, fun _ => rfl⟩
  · have quiet : noHeader cache = .ok ⟨⟩ := rfl
    have scan := percpuScript_settled consistent short quiet settled level
    have lists := nodesRead_ok consistent
    rw [if_neg idle, Script.bind_of_ok scan.1, lists]
    simp only [Script.reading_actions, List.append_nil]
    exact ⟨rfl, scan.2⟩

/-- `slub_process_once` leaves the dictionaries filled in, and changes nothing of
them if they were. -/
theorem slubProcessOnce_settled {world : SlubWorld}
    (settled : image.Settled system cache (world.tables cache.address)) :
    Exists fun after : SlubWorld => (slubProcessOnce system fuel cache).run world = .ok ⟨⟩ after ∧
      image.Settled system cache (after.tables cache.address) ∧
      image.Filled system cache (after.tables cache.address) ∧
      (image.Filled system cache (world.tables cache.address) ->
        percpuView cache after = percpuView cache world) := by
  have pass := passScript_settled consistent short settled 0
  have run := slubProcessOnce_enacts system cache fuel _ world rfl
  rw [performed_local, pass.1] at run
  rcases run with ⟨_, after, ran, shown, _⟩
  have portion := congrArg Prod.fst shown
  have both := settled.of_percpu portion pass.2.1
  exact ⟨after, ran, both.1, both.2, fun filled => portion.trans (pass.2.2 filled)⟩

/-- The walk along the lists of the nodes, with headers. -/
theorem nodeShows_settled {portion : SlubTables} (level : Nat)
    (sizes : portion.cpuFreelistsSizes.length = system.cpusOnline.length)
    (filled : image.Filled system cache portion) :
    NodeShows system cache (percpuView cache) performPercpu (longHeader system fuel) level noHeader
      (fun tables => percpu (tables cache.address) = portion) where
  report := fun _ _ => rfl
  placed := by
    intro world places
    unfold percpuView
    rw [SlubWorld.update_tables_self]
    rfl
  kept := by
    intro world places start
    rw [SlubWorld.update_tables_self]
    exact start
  printed := by
    intro _ slab world
    unfold percpuView
    rw [populateFree_tables]
  headed := by
    intro _ slab own world start
    have complete : image.Filled system cache (world.tables cache.address) := by
      rw [← start] at filled
      exact ⟨filled.slabs, filled.free, filled.freelists⟩
    have settled : image.Settled system cache (world.tables cache.address) := by
      refine ⟨?_, .inr complete⟩
      rw [← sizes, ← start]
      exact List.length_replicate.symm
    rcases slubProcessOnce_settled consistent short settled with ⟨after, ran, _, _, same⟩
    unfold longHeader
    rw [own]
    exact ⟨⟨⟩, after, ran, same complete, (same complete).trans start⟩

/-- What comes after the scan returns the numbers of the image. -/
theorem finish_settled {world : SlubWorld}
    (settled : image.Settled system cache (world.tables cache.address))
    (filled : image.Filled system cache (world.tables cache.address)) (level : Nat) :
    Exists fun after : SlubWorld =>
      (finish system cache (longHeader system fuel) level).run world =
        .ok (some (image.totals system cache)) after ∧
      image.Settled system cache (after.tables cache.address) ∧
      image.Filled system cache (after.tables cache.address) ∧
      (after.tables cache.address).processed = true := by
  let portion := percpu (world.tables cache.address)
  have sizes : portion.cpuFreelistsSizes.length = system.cpusOnline.length :=
    List.length_replicate.trans settled.sizes
  have complete : image.Filled system cache portion :=
    ⟨filled.slabs, filled.free, filled.freelists⟩
  have same {tables : SlubTables} (start : percpu tables = portion) :
      image.Settled system cache tables ∧ image.Filled system cache tables := by
    have unchanged : percpu tables = performed performPercpu [] portion := start
    exact settled.of_percpu unchanged complete
  have good : noHeader cache = .ok ⟨⟩ := rfl
  have enacts := finish_enacts (nodeShows_settled consistent short level sizes complete)
    (image.nrFreeOf cache (image.held system) + (image.cached system).length)
    (image.held system).length
    (by
      intro tables start
      have known := (same start).2
      rw [known.free, ← known.freelists, List.length_map])
    (by
      intro tables start
      rw [← (same start).2.slabs, List.length_map])
    (by
      intro before start
      unfold percpuView
      rw [SlubWorld.update_tables_self]
      rfl)
  have run := enacts world rfl
  rw [finishScript_ends consistent good] at run
  rcases run with ⟨value, after, ran, _, returned, before, start, ended⟩
  refine ⟨after, returned ▸ ran, ?_⟩
  rw [ended, SlubWorld.update_tables_self]
  have flagged : percpu { before.tables cache.address with processed := true } = portion := start
  exact ⟨(same flagged).1, (same flagged).2, rfl⟩

/-- `process_all` at any print level. -/
theorem processAll_settled {world : SlubWorld}
    (settled : image.Settled system cache (world.tables cache.address)) (level : Nat) :
    Exists fun after : SlubWorld =>
      (processAll system cache fuel level).run world =
        .ok (if level = 0 ∧ (world.tables cache.address).processed = true then none
          else some (image.totals system cache)) after ∧
      image.Settled system cache (after.tables cache.address) ∧
      (after.tables cache.address).processed = true := by
  have unfolded : (processAll system cache fuel level).run world =
      (if level = 0 ∧ (world.tables cache.address).processed = true then pure none
        else processPercpu system cache (longHeader system fuel) level fuel >>= fun _ =>
          finish system cache (longHeader system fuel) level : SlubM (Option Totals)).run world :=
    rfl
  rw [unfolded]
  by_cases idle : level = 0 ∧ (world.tables cache.address).processed = true
  · rw [if_pos idle, if_pos idle]
    exact ⟨world, rfl, settled, idle.2⟩
  · rw [if_neg idle, if_neg idle, EStateM.run_bind]
    have good : headerOutcome system cache fuel world.tables cache = .ok ⟨⟩ := by
      unfold headerOutcome
      rw [if_pos rfl, nodesRead_ok consistent, ite_self]
    have scan := percpuScript_settled consistent short good settled level
    have run := processPercpu_enacts (percpu_shows consistent.known level) fuel world.tables
      (undisturbed_initially system cache fuel world.tables) world rfl
    rw [scan.1] at run
    rcases run with ⟨_, reached, ran, portion, _⟩
    have both := settled.of_percpu portion scan.2.1
    rcases finish_settled consistent short both.1 both.2 level with
      ⟨after, finished, later, _, processed⟩
    rw [ran]
    exact ⟨after, finished, later, processed⟩

end Passes

end SlubImage
end Slab
end CrashPython

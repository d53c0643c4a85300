import CrashPython.Slab.SlubQuiet

namespace CrashPython
namespace Slab
namespace KmemCacheSLUB

open Library Types

/-!
# What the processors hold

The chain of free objects of a processor, its active slab and its partial list
can be read off memory.  A scan that comes to its end has recorded the objects of
the chains, and then the slabs, and nothing else.  Its dictionaries therefore
cover every processor it has scanned.
-/

variable (system : SlubSystem) (cache : KmemCacheSLUB)

/-- The next slab of a partial list. -/
def nextLink (page : Nat) : Except GdbError Nat :=
  (system.pages page).next

/-- The walk along the chain of a processor. -/
def lockless (cpuSlab : KmemCacheCpu) : Except GdbError (List Nat × ChainEnd GdbError) := do
  let freelist <- cpuSlab.freelist
  if freelist = 0 then return ([], .null)
  else do
    let page <- cpuSlab.page
    let nrObjects <- (system.pages page).objects
    return chainWalk (SlabSLUB.freePointer system cache) nrObjects freelist

/-- The objects on the chain of the processor, its active slab, which may be
null, and the slabs of its partial list. -/
def CpuHolds (cpu : Nat) (objects : List Nat) (active : Nat) (slabs : List Nat) : Prop :=
  Exists fun cpuSlab : KmemCacheCpu => cache.cpuSlab cpu = .ok cpuSlab ∧
    (Exists fun ending : ChainEnd GdbError =>
      lockless system cache cpuSlab = .ok (objects, ending) ∧ forall error, ending ≠ .failed error) ∧
    cpuSlab.page = .ok active ∧
    Exists fun first : Nat => cpuSlab.onPartial = .ok first ∧
      NullTerminated (nextLink system) first slabs

/-- The dictionaries have what the processor holds. -/
def CoversCpu (tables : SlubTables) (cpu : Nat) : Prop :=
  Exists fun objects : List Nat => Exists fun active : Nat => Exists fun slabs : List Nat =>
    CpuHolds system cache cpu objects active slabs ∧
      (forall obj, obj ∈ objects -> obj ∈ tables.cpuFreelists.map Prod.fst) ∧
      (active ≠ 0 -> active ∈ tables.cpuSlabs.map Prod.fst) ∧
      forall page, page ∈ slabs -> page ∈ tables.cpuSlabs.map Prod.fst

/-- The dictionaries have what the online processors hold. -/
def Covers (tables : SlubTables) : Prop :=
  forall cpu, cpu ∈ system.cpusOnline -> CoversCpu system cache tables cpu

variable {system cache}

/-- Dictionaries that grow cover what they covered before. -/
theorem Covers.grows {before after : SlubTables} (covers : Covers system cache before)
    (grows : Grows before after) : Covers system cache after := by
  intro cpu online
  rcases covers cpu online with ⟨objects, active, slabs, holds, cached, first, rest⟩
  have moreObjects : before.cpuFreelists.map Prod.fst ⊆ after.cpuFreelists.map Prod.fst :=
    List.map_subset Prod.fst grows.freelists.subset
  have moreSlabs : before.cpuSlabs.map Prod.fst ⊆ after.cpuSlabs.map Prod.fst :=
    List.map_subset Prod.fst grows.slabs.subset
  exact ⟨objects, active, slabs, holds, fun obj member => moreObjects (cached obj member),
    fun nonNull => moreSlabs (first nonNull), fun page member => moreSlabs (rest page member)⟩

/-! ## The contents of the scripts -/

/-- The objects that are recorded. -/
def recordedObjects (actions : List ScanAction) : List Nat :=
  actions.filterMap fun
    | .record _ obj => some obj
    | _ => none

/-- The slabs that are found. -/
def heldPages (actions : List ScanAction) : List Nat :=
  actions.filterMap fun
    | .hold slab _ => some slab.address
    | _ => none

theorem recordedObjects_append (first second : List ScanAction) :
    recordedObjects (first ++ second) = recordedObjects first ++ recordedObjects second :=
  List.filterMap_append

theorem heldPages_append (first second : List ScanAction) :
    heldPages (first ++ second) = heldPages first ++ heldPages second :=
  List.filterMap_append

/-- Actions that neither record an object nor find a slab. -/
def Plain (actions : List ScanAction) : Prop :=
  recordedObjects actions = [] ∧ heldPages actions = []

theorem Plain.append {first second : List ScanAction} (early : Plain first) (late : Plain second) :
    Plain (first ++ second) := by
  constructor
  · rw [recordedObjects_append, early.1, late.1]
    rfl
  · rw [heldPages_append, early.2, late.2]
    rfl

theorem plain_nil : Plain [] :=
  ⟨rfl, rfl⟩

theorem plain_resize (cpu size : Nat) : Plain [.resize cpu size] :=
  ⟨rfl, rfl⟩

theorem plain_reportIf (condition : Prop) [Decidable condition] (report : SlubReport) :
    Plain (if condition then .act (.report report) else pure ⟨⟩ : SlubScript PUnit).actions := by
  split
  · exact ⟨rfl, rfl⟩
  · exact plain_nil

theorem plain_frozenScript (system : SlubSystem) (slab : SlabSLUB) (expected : Nat) (place : FrozenPlace) :
    Plain (SlabSLUB.frozenScript system slab expected place).actions := by
  simp only [SlabSLUB.frozenScript]
  cases read : (glimpse (system.pages slab.address).frozen).ending with
  | error error =>
      rw [Script.bind_of_error read]
      exact plain_nil
  | ok frozen =>
      rw [Script.bind_of_ok read]
      exact plain_reportIf _ _

theorem plain_headerScript (outcome : KmemCacheSLUB -> Except Halt PUnit) (level least : Nat)
    (slab : SlabSLUB) : Plain (headerScript outcome level least slab).actions := by
  simp only [headerScript]
  split
  · exact plain_nil
  · exact plain_nil

theorem plain_printScript (system : SlubSystem) (level : Nat) (fill : Bool) (slab : SlabSLUB) :
    Plain (printScript system level fill slab).actions := by
  simp only [printScript]
  split
  · cases read : SlabSLUB.freeObjects system slab with
    | error error => exact plain_nil
    | ok free => exact plain_nil
  · exact plain_nil

/-- The script of a chain records the objects of the walk. -/
theorem locklessScript_ok {cpu remaining nrFree freelist size : Nat}
    (ended : (locklessScript system cache cpu remaining nrFree freelist).ending = .ok size) :
    (forall error, (chainWalk (SlabSLUB.freePointer system cache) remaining freelist).2 ≠
      .failed error) ∧
      Exists fun rest : List ScanAction => Plain rest ∧
        (locklessScript system cache cpu remaining nrFree freelist).actions =
          (chainWalk (SlabSLUB.freePointer system cache) remaining freelist).1.map
            (ScanAction.record cpu) ++ rest := by
  induction remaining generalizing nrFree freelist with
  | zero =>
      simp only [locklessScript, chainWalk]
      by_cases null : freelist = 0
      · rw [if_pos null, if_pos null]
        exact ⟨by simp, [], plain_nil, rfl⟩
      · rw [if_neg null, if_neg null]
        exact ⟨by simp, [.report (.freelistOverflow cache.address cpu)], ⟨rfl, rfl⟩, rfl⟩
  | succ remaining inductionHypothesis =>
      simp only [locklessScript] at ended
      simp only [locklessScript, chainWalk]
      by_cases null : freelist = 0
      · rw [if_pos null, if_pos null]
        exact ⟨by simp, [], plain_nil, rfl⟩
      · rw [if_neg null] at ended
        rw [if_neg null, if_neg null]
        rcases Script.bind_ending_ok.mp ended with ⟨_, _, later⟩
        rcases Script.bind_ending_ok.mp later with ⟨next, read, later⟩
        have linked : SlabSLUB.freePointer system cache freelist = .ok next :=
          fetched_eq_ok (halting_eq_ok read)
        rcases inductionHypothesis later with ⟨unfailed, rest, plain, further⟩
        have whole := congrArg (List.cons (ScanAction.record cpu freelist)) further
        rw [linked]
        exact ⟨unfailed, rest, plain, whole⟩

/-- The script of `_populate_cpu_freelist` records the chain of the processor. -/
theorem populateScript_ok {cpu size : Nat} {cpuSlab : KmemCacheCpu}
    (ended : (populateScript system cache cpu cpuSlab).ending = .ok size) :
    Exists fun objects : List Nat => Exists fun ending : ChainEnd GdbError =>
      lockless system cache cpuSlab = .ok (objects, ending) ∧
        (forall error, ending ≠ .failed error) ∧
        Exists fun rest : List ScanAction => Plain rest ∧
          (populateScript system cache cpu cpuSlab).actions =
            objects.map (ScanAction.record cpu) ++ rest := by
  simp only [populateScript] at ended ⊢
  simp only [lockless]
  rcases Script.bind_ending_ok.mp ended with ⟨freelist, read, ended⟩
  rw [Script.bind_of_ok read, fetched_eq_ok (halting_eq_ok read)]
  by_cases null : freelist = 0
  · refine ⟨[], .null, ?_, by simp, [], plain_nil, ?_⟩
    · change (if freelist = 0 then _ else _) = _
      rw [if_pos null]
      rfl
    · simp only [if_pos null]
      rfl
  · rw [if_neg null] at ended
    rcases Script.bind_ending_ok.mp ended with ⟨page, found, ended⟩
    rcases Script.bind_ending_ok.mp ended with ⟨nrObjects, counted, ended⟩
    rcases locklessScript_ok ended with ⟨unfailed, rest, plain, actions⟩
    let walk := chainWalk (SlabSLUB.freePointer system cache) nrObjects freelist
    refine ⟨walk.1, walk.2, ?_, unfailed, rest, plain, ?_⟩
    · change (if freelist = 0 then _ else _) = _
      rw [if_neg null, fetched_eq_ok (halting_eq_ok found)]
      change ((system.pages page).objects >>= _) = _
      rw [fetched_eq_ok (halting_eq_ok counted)]
      rfl
    · simp only [if_neg null]
      rw [Script.bind_of_ok found, Script.bind_of_ok counted]
      exact actions

/-- The script of the chain of a processor. -/
theorem freelistScript_ok {sizes cpu : Nat} {cpuSlab : KmemCacheCpu}
    (ended : (freelistScript system cache sizes true cpu cpuSlab).ending = .ok ⟨⟩) :
    Exists fun objects : List Nat => Exists fun ending : ChainEnd GdbError =>
      lockless system cache cpuSlab = .ok (objects, ending) ∧
        (forall error, ending ≠ .failed error) ∧
        Exists fun rest : List ScanAction => Plain rest ∧
          (freelistScript system cache sizes true cpu cpuSlab).actions =
            objects.map (ScanAction.record cpu) ++ rest := by
  simp only [freelistScript] at ended ⊢
  simp only [if_true] at ended ⊢
  rcases Script.bind_ending_ok.mp ended with ⟨size, populated, ended⟩
  rcases Script.bind_ending_ok.mp ended with ⟨_, inside, _⟩
  rcases populateScript_ok populated with ⟨objects, ending, walked, unfailed, rest, plain, actions⟩
  refine ⟨objects, ending, walked, unfailed, rest ++ [.resize cpu size],
    plain.append (plain_resize cpu size), ?_⟩
  rw [Script.bind_of_ok populated, Script.bind_of_ok inside]
  simp only [actions, List.append_assoc]
  rfl

/-- The script of a slab that is taken. -/
theorem holdScript_actions {page : Nat} {place : CpuPlace} {slab : SlabSLUB}
    (ended : (holdScript system true page place).ending = .ok slab) :
    (holdScript system true page place).actions = [.hold slab place] := by
  simp only [holdScript] at ended ⊢
  rcases Script.bind_ending_ok.mp ended with ⟨made, read, ended⟩
  simp only [if_true] at ended
  rcases Script.bind_ending_ok.mp ended with ⟨_, _, ended⟩
  rcases Script.bind_ending_ok.mp ended with ⟨free, found, same⟩
  cases same
  rw [Script.bind_of_ok read]
  simp only [if_true]
  rw [Script.bind_of_ok rfl, Script.bind_of_ok found]
  rfl

/-- The script of the active slab of a processor. -/
theorem activeScript_ok {outcome : KmemCacheSLUB -> Except Halt PUnit} {level cpu : Nat}
    {cpuSlab : KmemCacheCpu}
    (ended : (activeScript system outcome level true cpu cpuSlab).ending = .ok ⟨⟩) :
    Exists fun active : Nat => cpuSlab.page = .ok active ∧
      recordedObjects (activeScript system outcome level true cpu cpuSlab).actions = [] ∧
      heldPages (activeScript system outcome level true cpu cpuSlab).actions =
        if active = 0 then [] else [active] := by
  simp only [activeScript] at ended ⊢
  rcases Script.bind_ending_ok.mp ended with ⟨active, read, ended⟩
  refine ⟨active, fetched_eq_ok (halting_eq_ok read), ?_⟩
  rw [Script.bind_of_ok read]
  by_cases null : active = 0
  · simp only [if_pos null]
    exact ⟨rfl, rfl⟩
  · rw [if_neg null] at ended
    simp only [if_neg null]
    rcases Script.bind_ending_ok.mp ended with ⟨slab, held, ended⟩
    rcases Script.bind_ending_ok.mp ended with ⟨_, headed, ended⟩
    rcases Script.bind_ending_ok.mp ended with ⟨_, warned, _⟩
    rw [Script.bind_of_ok held, Script.bind_of_ok headed, Script.bind_of_ok warned]
    have plain := (plain_headerScript outcome level 2 slab).append
      ((plain_frozenScript system slab 1 (.cpu (.slab cpu))).append
        (plain_printScript system level true slab))
    have own := (SlabSLUB.fromPageObj_ok system (holdScript_ok held).1).1
    change recordedObjects ((holdScript system true active _).actions ++ _) = [] ∧
      heldPages ((holdScript system true active _).actions ++ _) = [active]
    rw [holdScript_actions held, recordedObjects_append, heldPages_append, plain.1, plain.2, ← own]
    exact ⟨rfl, rfl⟩

/-- The script of one slab of a partial list. -/
theorem visitScript_contents {outcome : KmemCacheSLUB -> Except Halt PUnit} {level cpu page : Nat}
    {pages : Int} (ended : (visitScript system outcome level true cpu page).ending = .ok pages) :
    recordedObjects (visitScript system outcome level true cpu page).actions = [] ∧
      heldPages (visitScript system outcome level true cpu page).actions = [page] := by
  simp only [visitScript] at ended ⊢
  rcases Script.bind_ending_ok.mp ended with ⟨slab, held, ended⟩
  rcases Script.bind_ending_ok.mp ended with ⟨counted, read, ended⟩
  rcases Script.bind_ending_ok.mp ended with ⟨_, headed, ended⟩
  rcases Script.bind_ending_ok.mp ended with ⟨_, printed, ended⟩
  rcases Script.bind_ending_ok.mp ended with ⟨_, warned, _⟩
  rw [Script.bind_of_ok held, Script.bind_of_ok read, Script.bind_of_ok headed,
    Script.bind_of_ok printed, Script.bind_of_ok warned]
  have plain := (plain_headerScript outcome level 3 slab).append
    ((plain_printScript system level true slab).append
      ((plain_frozenScript system slab 1 (.cpu (.onPartial cpu))).append plain_nil))
  have own := (SlabSLUB.fromPageObj_ok system (holdScript_ok held).1).1
  change recordedObjects ((holdScript system true page _).actions ++ _) = [] ∧
    heldPages ((holdScript system true page _).actions ++ _) = [page]
  rw [holdScript_actions held, recordedObjects_append, heldPages_append, ← own]
  exact ⟨plain.1, congrArg (List.cons slab.address) plain.2⟩

/-- The script of a partial list. -/
theorem partialScript_ok {outcome : KmemCacheSLUB -> Except Halt PUnit}
    {level cpu fuel page : Nat} {expected last : Int}
    (ended : (partialScript system cache outcome level true cpu fuel page expected last).ending =
      .ok ⟨⟩) :
    NullTerminated (nextLink system) page (heldPages (partialScript system cache outcome level true
      cpu fuel page expected last).actions) ∧
      recordedObjects (partialScript system cache outcome level true cpu fuel page expected
        last).actions = [] := by
  induction fuel generalizing page expected last with
  | zero => cases ended
  | succ fuel inductionHypothesis =>
      simp only [partialScript] at ended ⊢
      by_cases null : page = 0
      · have plain := plain_reportIf (last ≠ 1) (.pagesNotOne cache.address cpu last)
        simp only [if_pos null]
        rw [plain.1, plain.2, null]
        exact ⟨.done, rfl⟩
      · rw [if_neg null] at ended
        simp only [if_neg null]
        rcases Script.bind_ending_ok.mp ended with ⟨pages, visited, ended⟩
        rcases Script.bind_ending_ok.mp ended with ⟨_, noticed, ended⟩
        rcases Script.bind_ending_ok.mp ended with ⟨next, read, ended⟩
        rcases inductionHypothesis ended with ⟨chain, unrecorded⟩
        have plain := plain_reportIf (pages ≠ expected)
          (.pagesUnexpected cache.address cpu page pages expected)
        have visit := visitScript_contents visited
        have linked : nextLink system page = .ok next := fetched_eq_ok (halting_eq_ok read)
        rw [Script.bind_of_ok visited, Script.bind_of_ok noticed, Script.bind_of_ok read]
        simp only [recordedObjects_append, heldPages_append, visit.1, visit.2, plain.1, plain.2,
          unrecorded]
        exact ⟨.node null linked chain, rfl⟩

/-- The slabs that a processor holds. -/
def holdings (active : Nat) (slabs : List Nat) : List Nat :=
  (if active = 0 then [] else [active]) ++ slabs

/-- The script of a processor that was scanned records what the processor holds:
first the objects of its chain, then its slabs. -/
theorem cpuScript_ok {outcome : KmemCacheSLUB -> Except Halt PUnit} {sizes level fuel cpu : Nat}
    (ended : (cpuScript system cache sizes outcome level fuel true cpu).ending = .ok ⟨⟩) :
    Exists fun objects : List Nat => Exists fun active : Nat => Exists fun slabs : List Nat =>
      CpuHolds system cache cpu objects active slabs ∧
        Exists fun rest : List ScanAction =>
          (cpuScript system cache sizes outcome level fuel true cpu).actions =
            objects.map (ScanAction.record cpu) ++ rest ∧
            recordedObjects rest = [] ∧ heldPages rest = holdings active slabs := by
  simp only [cpuScript, headScript] at ended ⊢
  simp only [Script.bind_assoc] at ended ⊢
  rcases Script.bind_ending_ok.mp ended with ⟨cpuSlab, found, ended⟩
  rcases Script.bind_ending_ok.mp ended with ⟨_, listed, ended⟩
  rcases Script.bind_ending_ok.mp ended with ⟨_, held, ended⟩
  rcases Script.bind_ending_ok.mp ended with ⟨first, started, ended⟩
  rcases freelistScript_ok listed with ⟨objects, ending, walked, unfailed, early, plain, recorded⟩
  rcases activeScript_ok held with ⟨active, read, unrecorded, taken⟩
  have tail : NullTerminated (nextLink system) first
      (heldPages (tailScript system cache outcome level fuel true cpu first).actions) ∧
      recordedObjects (tailScript system cache outcome level fuel true cpu first).actions = [] := by
    simp only [tailScript] at ended ⊢
    by_cases null : first = 0
    · simp only [if_pos null]
      rw [null]
      exact ⟨.done, rfl⟩
    · rw [if_neg null] at ended
      simp only [if_neg null]
      rcases Script.bind_ending_ok.mp ended with ⟨expected, counted, ended⟩
      rw [Script.bind_of_ok counted]
      exact partialScript_ok ended
  refine ⟨objects, active, _, ⟨cpuSlab, halting_eq_ok found, ⟨ending, walked, unfailed⟩, read, first,
    fetched_eq_ok (halting_eq_ok started), tail.1⟩, early ++ ((activeScript system outcome level true
      cpu cpuSlab).actions ++ (tailScript system cache outcome level fuel true cpu first).actions),
      ?_, ?_, ?_⟩
  · rw [Script.bind_of_ok found, Script.bind_of_ok listed, Script.bind_of_ok held,
      Script.bind_of_ok started]
    simp only [recorded, List.append_assoc]
    rfl
  · rw [recordedObjects_append, recordedObjects_append, plain.1, unrecorded, tail.2]
    rfl
  · rw [heldPages_append, heldPages_append, plain.2, taken]
    rfl

/-! ## The dictionaries after a scan -/

theorem isSome_lookup_iff {Value : Type} (entries : List (Nat × Value)) (key : Nat) :
    (entries.lookup key).isSome = true <-> key ∈ entries.map Prod.fst := by
  rw [← not_iff_not, Bool.not_eq_true, Option.isSome_eq_false_iff, Option.isNone_iff_eq_none,
    List.lookup_eq_none_iff]
  simp only [List.mem_map, not_exists, not_and, bne_iff_ne]
  exact ⟨fun absent entry member same => absent entry member same.symm,
    fun absent entry member same => absent entry member same.symm⟩

/-- The dictionaries after one action. -/
theorem mem_performPercpu (action : ScanAction) (tables : SlubTables) (key : Nat) :
    (key ∈ (performPercpu action tables).cpuFreelists.map Prod.fst <->
      key ∈ tables.cpuFreelists.map Prod.fst ∨ key ∈ recordedObjects [action]) ∧
    (key ∈ (performPercpu action tables).cpuSlabs.map Prod.fst <->
      key ∈ tables.cpuSlabs.map Prod.fst ∨ key ∈ heldPages [action]) := by
  cases action with
  | record cpu obj =>
      cases known : tables.cpuFreelists.lookup obj with
      | some other =>
          have member := (isSome_lookup_iff tables.cpuFreelists obj).mp (known ▸ rfl)
          simp only [performPercpu, known, recordedObjects, heldPages, List.filterMap_cons,
            List.filterMap_nil, List.mem_singleton, List.not_mem_nil, or_false, and_true]
          constructor
          · exact Or.inl
          · rintro (before | rfl)
            · exact before
            · exact member
      | none =>
          simp only [performPercpu, known, recordedObjects, heldPages, List.filterMap_cons,
            List.filterMap_nil, List.map_append, List.map_cons, List.map_nil, List.mem_append,
            List.mem_singleton, List.not_mem_nil, or_false, and_self]
  | hold slab place =>
      cases known : tables.cpuSlabs.lookup slab.address with
      | some other =>
          have member := (isSome_lookup_iff tables.cpuSlabs slab.address).mp (known ▸ rfl)
          simp only [performPercpu, known, recordedObjects, heldPages, List.filterMap_cons,
            List.filterMap_nil, List.mem_singleton, List.not_mem_nil, or_false, true_and]
          constructor
          · exact Or.inl
          · rintro (before | rfl)
            · exact before
            · exact member
      | none =>
          simp only [performPercpu, known, enterSlab, recordedObjects, heldPages,
            List.filterMap_cons, List.filterMap_nil, List.map_append, List.map_cons, List.map_nil,
            List.mem_append, List.mem_singleton, List.not_mem_nil, or_false, and_self]
  | resize cpu size => exact ⟨(or_iff_left List.not_mem_nil).symm, (or_iff_left List.not_mem_nil).symm⟩
  | report report => exact ⟨(or_iff_left List.not_mem_nil).symm, (or_iff_left List.not_mem_nil).symm⟩

/-- The dictionaries after a scan. -/
theorem mem_performed (actions : List ScanAction) (tables : SlubTables) (key : Nat) :
    (key ∈ (performed performPercpu actions tables).cpuFreelists.map Prod.fst <->
      key ∈ tables.cpuFreelists.map Prod.fst ∨ key ∈ recordedObjects actions) ∧
    (key ∈ (performed performPercpu actions tables).cpuSlabs.map Prod.fst <->
      key ∈ tables.cpuSlabs.map Prod.fst ∨ key ∈ heldPages actions) := by
  simp only [performed]
  induction actions generalizing tables with
  | nil => exact ⟨(or_iff_left List.not_mem_nil).symm, (or_iff_left List.not_mem_nil).symm⟩
  | cons action rest inductionHypothesis =>
      have first := mem_performPercpu action tables key
      have later := inductionHypothesis (performPercpu action tables)
      have split : action :: rest = [action] ++ rest := rfl
      rw [List.foldl_cons, later.1, later.2, first.1, first.2, split, recordedObjects_append,
        heldPages_append, List.mem_append, List.mem_append, or_assoc, or_assoc]
      exact ⟨Iff.rfl, Iff.rfl⟩

/-- The wrappers of the slabs that are found. -/
def heldSlabs (actions : List ScanAction) : List SlabSLUB :=
  actions.filterMap fun
    | .hold slab _ => some slab
    | _ => none

theorem heldPages_eq_map (actions : List ScanAction) :
    heldPages actions = (heldSlabs actions).map SlabSLUB.address := by
  simp only [heldPages, heldSlabs]
  rw [List.map_filterMap]
  congr 1
  funext action
  cases action with
  | record cpu obj => rfl
  | resize cpu size => rfl
  | hold slab place => rfl
  | report report => rfl

/-- Actions that find what is not in the dictionaries enter it in their order. -/
theorem performed_distinct {actions : List ScanAction} {tables : SlubTables}
    (objects : (tables.cpuFreelists.map Prod.fst ++ recordedObjects actions).Nodup)
    (slabs : (tables.cpuSlabs.map Prod.fst ++ heldPages actions).Nodup) :
    (performed performPercpu actions tables).cpuFreelists.map Prod.fst =
        tables.cpuFreelists.map Prod.fst ++ recordedObjects actions ∧
      (performed performPercpu actions tables).cpuSlabs.map Prod.fst =
        tables.cpuSlabs.map Prod.fst ++ heldPages actions ∧
      (performed performPercpu actions tables).cpuSlabsFree =
        tables.cpuSlabsFree + ((heldSlabs actions).map SlabSLUB.nrFree).sum := by
  simp only [performed]
  induction actions generalizing tables with
  | nil => simp only [recordedObjects, heldPages, heldSlabs, List.filterMap_nil, List.append_nil,
      List.foldl_nil, List.map_nil, List.sum_nil, add_zero, and_self]
  | cons action rest inductionHypothesis =>
      rw [List.foldl_cons]
      cases action with
      | record cpu obj =>
          have new : tables.cpuFreelists.lookup obj = none := by
            rw [← Option.not_isSome_iff_eq_none, isSome_lookup_iff]
            exact fun known => List.disjoint_of_nodup_append objects known List.mem_cons_self
          have same : performPercpu (.record cpu obj) tables =
              { tables with cpuFreelists := tables.cpuFreelists ++ [(obj, cpu)] } := by
            simp only [performPercpu, new]
          have keys : (performPercpu (.record cpu obj) tables).cpuFreelists.map Prod.fst =
              tables.cpuFreelists.map Prod.fst ++ [obj] := by
            rw [same, List.map_append]
            rfl
          have later := @inductionHypothesis (performPercpu (.record cpu obj) tables)
          rw [keys, List.append_assoc, same] at later
          rw [same]
          exact later objects slabs
      | resize cpu size => exact inductionHypothesis objects slabs
      | hold slab place =>
          have new : tables.cpuSlabs.lookup slab.address = none := by
            rw [← Option.not_isSome_iff_eq_none, isSome_lookup_iff]
            exact fun known => List.disjoint_of_nodup_append slabs known List.mem_cons_self
          have same : performPercpu (.hold slab place) tables = enterSlab slab place tables := by
            simp only [performPercpu, new]
          have keys : (performPercpu (.hold slab place) tables).cpuSlabs.map Prod.fst =
              tables.cpuSlabs.map Prod.fst ++ [slab.address] := by
            rw [same, enterSlab, List.map_append]
            rfl
          have later := @inductionHypothesis (performPercpu (.hold slab place) tables)
          rw [keys, List.append_assoc, same] at later
          rw [same]
          rcases later objects slabs with ⟨first, second, third⟩
          refine ⟨first, second, third.trans ?_⟩
          exact Int.add_assoc _ _ _
      | report report => exact inductionHypothesis objects slabs

/-- Actions that find nothing leave the dictionaries as they are. -/
theorem performed_plain {actions : List ScanAction} (plain : Plain actions) (tables : SlubTables) :
    performed performPercpu actions tables = tables := by
  simp only [performed]
  induction actions with
  | nil => rfl
  | cons action rest inductionHypothesis =>
      have split : action :: rest = [action] ++ rest := rfl
      have objects := plain.1
      have slabs := plain.2
      rw [split, recordedObjects_append, List.append_eq_nil_iff] at objects
      rw [split, heldPages_append, List.append_eq_nil_iff] at slabs
      have later := inductionHypothesis ⟨objects.2, slabs.2⟩
      cases action with
      | record cpu obj => exact absurd objects.1 (List.cons_ne_nil _ _)
      | resize cpu size => exact later
      | hold slab place => exact absurd slabs.1 (List.cons_ne_nil _ _)
      | report report => exact later

/-- The number of places for sizes stays. -/
theorem performed_sizes (actions : List ScanAction) (tables : SlubTables) :
    (performed performPercpu actions tables).cpuFreelistsSizes = tables.cpuFreelistsSizes := by
  simp only [performed]
  induction actions generalizing tables with
  | nil => rfl
  | cons action rest inductionHypothesis =>
      rw [List.foldl_cons, inductionHypothesis]
      cases action with
      | record cpu obj =>
          simp only [performPercpu]
          split
          · rfl
          · rfl
      | resize cpu size => rfl
      | hold slab place =>
          simp only [performPercpu]
          split
          · rfl
          · rfl
      | report report => rfl

theorem recordedObjects_flatMap (items : List Nat) (actions : Nat -> List ScanAction) :
    recordedObjects (items.flatMap actions) =
      items.flatMap fun item => recordedObjects (actions item) :=
  List.filterMap_flatMap

theorem heldPages_flatMap (items : List Nat) (actions : Nat -> List ScanAction) :
    heldPages (items.flatMap actions) = items.flatMap fun item => heldPages (actions item) :=
  List.filterMap_flatMap

theorem recordedObjects_map (cpu : Nat) (objects : List Nat) :
    recordedObjects (objects.map (ScanAction.record cpu)) = objects := by
  simp only [recordedObjects]
  rw [List.filterMap_map]
  exact List.filterMap_some

theorem heldPages_map (cpu : Nat) (objects : List Nat) :
    heldPages (objects.map (ScanAction.record cpu)) = [] := by
  simp only [heldPages]
  rw [List.filterMap_map]
  exact List.filterMap_none objects

/-- A scan that came to its end covers every processor. -/
theorem covers_of_scanScript {outcome : KmemCacheSLUB -> Except Halt PUnit} {sizes level fuel : Nat}
    (ended : (scanScript system cache sizes outcome level fuel true).ending = .ok ⟨⟩)
    (tables : SlubTables) :
    Covers system cache (performed performPercpu
      (scanScript system cache sizes outcome level fuel true).actions tables) := by
  intro cpu online
  rcases cpuScript_ok (Script.forM_ending_ok.mp ended cpu online) with
    ⟨objects, active, slabs, holds, rest, actions, unrecorded, held⟩
  have all : (scanScript system cache sizes outcome level fuel true).actions = _ :=
    Script.forM_actions ended
  have found : forall page, page ∈ holdings active slabs ->
      page ∈ (performed performPercpu (scanScript system cache sizes outcome level fuel
        true).actions tables).cpuSlabs.map Prod.fst := by
    intro page member
    apply (mem_performed _ tables page).2.mpr (.inr _)
    rw [all, heldPages_flatMap]
    apply List.mem_flatMap_of_mem online
    rw [actions, heldPages_append, held]
    exact List.mem_append_right _ member
  refine ⟨objects, active, slabs, holds, ?_, ?_, ?_⟩
  · intro obj member
    apply (mem_performed _ tables obj).1.mpr (.inr _)
    rw [all, recordedObjects_flatMap]
    apply List.mem_flatMap_of_mem online
    rw [actions, recordedObjects_append, recordedObjects_map]
    exact List.mem_append_left _ member
  · intro nonNull
    apply found
    simp only [holdings]
    rw [if_neg nonNull]
    exact List.mem_append_left _ List.mem_cons_self
  · intro page member
    apply found
    exact List.mem_append_right _ member

end KmemCacheSLUB
end Slab
end CrashPython

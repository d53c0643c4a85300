import CrashPython.Library.Checker
import CrashPython.Slab.ArrayCaches
import Mathlib.Data.Finset.Card

namespace CrashPython
namespace Slab

open Library Types

/-!
# Class `SlabSLAB`

A slab of the SLAB allocator is a `struct page`, or in older kernels a
`struct slab`.  The page form lists the indices of its free objects in an array
behind `active`; the other form chains them through the `bufctl` array.  Both
are read into the set `free`.

`check` compares a slab with its counters, with the list it is on, with the
array caches and with the pages of its objects.  The pages are checked one
object after the other, and an object on the page of the object before it is
passed over.
-/

/-- The three lists of a node, in the order of their numbers. -/
inductive SlabType where
  | slabPartial
  | slabFull
  | slabFree
deriving DecidableEq, Repr

/-- The texts of the lists in messages. -/
def SlabType.text : SlabType -> String
  | .slabPartial => "slab_partial"
  | .slabFull => "slab_full"
  | .slabFree => "slab_free"

/-- A slab with this many free objects does not belong on the list. -/
def SlabType.Misfits (maxFree numFree : Nat) : SlabType -> Prop
  | .slabFree => numFree ≠ maxFree
  | .slabPartial => numFree = 0 ∨ numFree = maxFree
  | .slabFull => 0 < numFree

instance (maxFree numFree : Nat) (slabtype : SlabType) :
    Decidable (slabtype.Misfits maxFree numFree) :=
  match slabtype with
  | .slabFree => inferInstanceAs (Decidable (numFree ≠ maxFree))
  | .slabPartial => inferInstanceAs (Decidable (numFree = 0 ∨ numFree = maxFree))
  | .slabFull => inferInstanceAs (Decidable (0 < numFree))

/-- The mark at the end of a chain of free objects. -/
def bufctlEnd : Nat :=
  0xffffffff

/-- What `_pr_err` is called with. -/
inductive SlabReport where
  | indexOverflow (idx nrObjects : Nat)
  | duplicated (obj : Nat)
  | bufctlCycle
  | offSlabNotSlab
  | offSlabWrongCache (name : String)
  | offSlabNotAllocated
  | offSlabOffset (offset : Int)
  | counts (inuse free maxFree : Nat)
  | misplaced (list : SlabType) (inuse nrObjects : Nat)
  | slabNid (found expected : Nat)
  | freeButCached (obj : Nat)
  | noPage (obj : Nat)
  | objNid (obj found expected : Nat)
  | notPageSlab (obj : Nat)
  | wrongKmemCache (obj found expected : Nat)
  | wrongSlab (obj found : Nat)
deriving DecidableEq, Repr

/-- The messages, without the name of the cache and the address of the slab. -/
def SlabReport.text : SlabReport -> String
  | .indexOverflow idx nrObjects =>
      ": free object index " ++ toString idx ++ " overflows " ++ toString nrObjects
  | .duplicated obj => ": object " ++ hexAddress obj ++ " duplicated on freelist"
  | .bufctlCycle => ": bufctl cycle detected"
  | .offSlabNotSlab => ": OFF_SLAB struct slab is not a slab object itself"
  | .offSlabWrongCache name => ": OFF_SLAB struct slab is in a wrong cache " ++ name
  | .offSlabNotAllocated => ": OFF_SLAB struct slab is not allocated"
  | .offSlabOffset offset => ": OFF_SLAB struct slab at wrong offset " ++ toString offset
  | .counts inuse free maxFree =>
      ": inuse=" ++ toString inuse ++ " free=" ++ toString free ++ " adds up to " ++
        toString (inuse + free) ++ " (should be " ++ toString maxFree ++ ")"
  | .misplaced list inuse nrObjects =>
      ": is on list " ++ list.text ++ ", but has " ++ toString inuse ++ " of " ++
        toString nrObjects ++ " objects allocated"
  | .slabNid found expected =>
      ": slab is on nid " ++ toString found ++ " instead of " ++ toString expected
  | .freeButCached obj => ": obj " ++ hexAddress obj ++ " is marked as free but in array cache:"
  | .noPage obj => ": failed to get page for object " ++ hexAddress obj
  | .objNid obj found expected =>
      ": obj " ++ hexAddress obj ++ " is on nid " ++ toString found ++ " instead of " ++
        toString expected
  | .notPageSlab obj => ": obj " ++ hexAddress obj ++ " is not on PageSlab page"
  | .wrongKmemCache obj found expected =>
      ": obj " ++ hexAddress obj ++ " is on page where pointer to kmem_cache points to " ++
        hexAddress found ++ " instead of " ++ hexAddress expected
  | .wrongSlab obj found =>
      ": obj " ++ hexAddress obj ++ " is on page where pointer to slab wrongly points to " ++
        hexAddress found

/-- The form of a slab.  The page form keeps the wrapper of its page. -/
inductive SlabForm (memory : PageMemory) where
  | pageSlab (page : Page memory)
  | structSlab

/-- The attributes the constructor fetches. -/
structure SlabSLAB (cache : KmemCacheSLAB) where
  address : Nat
  form : SlabForm cache.pages
  nrInuse : Nat
  sMem : Nat

/-- The attributes that change, those of the cache included, and what was
printed.  A misplaced slab is remembered and not printed. -/
structure SlabState where
  free : Finset Nat := ∅
  freePopulated : Bool := false
  error : Bool := false
  misplaced : Option SlabReport := none
  offSlabCache : Option String := none
  caches : ArrayCaches := {}
  reports : List SlabReport := []

/-- Code that works on a slab and can be left by an exception. -/
abbrev SlabM : Type -> Type :=
  EStateM SlabException SlabState

/-- `_pr_err`. -/
def SlabState.prErr (report : SlabReport) (state : SlabState) : SlabState :=
  { state with error := true, reports := state.reports ++ [report] }

/-- `__free_error`, which is `_pr_err` with `misplaced` set. -/
def SlabState.freeError (report : SlabReport) (state : SlabState) : SlabState :=
  { state with error := true, misplaced := some report }

/-- Code that works on the array caches of the cache. -/
def onCaches {Value : Type} (code : FillM Value) : SlabM Value := fun state =>
  match code.run state.caches with
  | .ok value caches => .ok value { state with caches := caches }
  | .error error caches => .error error { state with caches := caches }

theorem onCaches_eq_ok {Value : Type} {code : FillM Value} {before after : SlabState} {value : Value}
    (ran : (onCaches code).run before = .ok value after) :
    Exists fun caches : ArrayCaches =>
      code.run before.caches = .ok value caches ∧ after = { before with caches := caches } := by
  simp only [onCaches, EStateM.run] at ran ⊢
  cases done : code before.caches with
  | error error caches =>
      rw [done] at ran
      cases ran
  | ok found caches =>
      rw [done] at ran
      cases ran
      exact ⟨caches, rfl, rfl⟩

namespace SlabSLAB

section Construction

variable (cache : KmemCacheSLAB)

/-- The wrapper of its own page that a slab of the page form makes. -/
def makeForm (address : Nat) : Except GdbError (SlabForm cache.pages) :=
  if cache.pageSlab then (Page.fromPageAddr cache.pageClass cache.pages address).map .pageSlab
  else .ok .structSlab

/-- The constructor.  `from_addr` and `from_list_head` are the constructor at
the address they compute. -/
def make (address : Nat) : Except GdbError (SlabSLAB cache) := do
  let nrInuse <- (cache.slabs address).inuse
  let form <- makeForm cache address
  let sMem <- (cache.slabs address).sMem
  return ⟨address, form, nrInuse, sMem⟩

end Construction

variable {cache : KmemCacheSLAB} (slab : SlabSLAB cache)

/-- The address of the object with some index. -/
def objectAt (idx : Nat) : Nat :=
  slab.sMem + idx * cache.bufferSize

/-- `get_objects`. -/
def getObjects : List Nat :=
  (List.range cache.objsPerSlab).map slab.objectAt

/-- `__add_free_obj_by_idx`. -/
def addFreeObjByIdx (idx : Nat) : SlabM Bool := do
  if cache.objsPerSlab ≤ idx then
    modify (SlabState.prErr (.indexOverflow idx cache.objsPerSlab))
    return false
  else
    let state <- get
    if slab.objectAt idx ∈ state.free then
      modify (SlabState.prErr (.duplicated (slab.objectAt idx)))
      return false
    else
      modify fun state => { state with free := insert (slab.objectAt idx) state.free }
      return true

/-- The loop over the array of a slab in the page form.  A bad index does not
end it. -/
def populateFromPage : SlabM PUnit :=
  (List.range' slab.nrInuse (cache.objsPerSlab - slab.nrInuse)).forM fun i => do
    let idx <- raising (fetched ((cache.slabs slab.address).index i))
    let _ <- slab.addFreeObjByIdx idx

/-- The loop over the chain of a slab in the other form, from the index `f`. -/
def populateFromBufctl : Nat -> Nat -> SlabM PUnit
  | 0, _ => pure ⟨⟩
  | fuel + 1, f =>
      if f = bufctlEnd then pure ⟨⟩
      else do
        let added <- slab.addFreeObjByIdx f
        if added then do
          let next <- raising (fetched ((cache.slabs slab.address).index f))
          populateFromBufctl fuel next
        else modify (SlabState.prErr .bufctlCycle)

/-- `_do_populate_free`.  Every round of the second loop but the last one adds
an object, so that the rounds are at most one more than the objects. -/
def doPopulateFree : SlabM PUnit :=
  match slab.form with
  | .pageSlab _ => slab.populateFromPage
  | .structSlab => do
      let f <- raising (fetched (cache.slabs slab.address).free)
      slab.populateFromBufctl (cache.objsPerSlab + 1) f

/-- `populate_free`. -/
def populateFree : SlabM PUnit := do
  let state <- get
  if state.freePopulated then pure ⟨⟩
  else do
    slab.doPopulateFree
    modify fun state => { state with freePopulated := true }

/-- `find_obj`. -/
def findObj (addr : Nat) : Except SlabException (Option Nat) :=
  if addr < slab.sMem then .ok none
  else if cache.bufferSize = 0 then .error .zeroDivision
  else
    let idx := (addr - slab.sMem) / cache.bufferSize
    if cache.objsPerSlab ≤ idx then .ok none else .ok (some (slab.objectAt idx))

/-- `contains_obj`, which takes an object at address zero for none. -/
def containsObj (addr : Nat) : Except SlabException (Bool × Nat × Option String) := do
  let found <- slab.findObj addr
  match found with
  | none | some 0 => return (false, 0, some "address outside of valid object range")
  | some obj => return (true, obj, none)

/-- The description of an array cache in `obj_in_use`. -/
def cacheText (entry : ArrayCacheEntry) : String :=
  match entry.acType with
  | .percpu => "cpu " ++ toString entry.nidTgt ++ " cache"
  | .shared => "shared cache on node " ++ toString entry.nidTgt
  | .alien => "alien cache on node " ++ toString entry.nidSrc ++ " for node " ++ toString entry.nidTgt

/-- `obj_in_use`. -/
def objInUse (addr : Nat) : SlabM (Bool × Option String) := do
  slab.populateFree
  let state <- get
  if addr ∈ state.free then return (false, none)
  else
    let table <- onCaches cache.getArrayCaches
    match table.lookup addr with
    | some entry => return (false, some (cacheText entry))
    | none => return (true, none)

/-- `SlabSLAB.from_page`, with the cache the slab turns out to belong to. -/
def fromPage (system : SlabSystem) (page : Page system.pages) :
    Except SlabException (Sigma SlabSLAB) := do
  let address <- fetched (page.getSlabCache system.pageClass)
  let owner <- kmemCacheFromAddr system address
  let found <- fetched (if system.pageSlab then .ok page.address else page.getSlabPage system.pageClass)
  let slab <- fetched (make owner found)
  return ⟨owner, slab⟩

/-- `slab_from_obj_addr`. -/
def fromObjAddr (system : SlabSystem) (addr : Nat) :
    Except SlabException (Option (Sigma SlabSLAB)) := do
  let page <- fetched (Page.headOfAddr system.pageClass system.pages addr)
  if page.isSlab system.pageClass then (fromPage system page).map some else return none

/-! ## The parts of `check` -/

/-- The caches that an off-slab `struct slab` may lie in. -/
def offSlabCaches : List String :=
  ["size-64", "size-128"]

/-- The cache of an off-slab `struct slab`: the first one is remembered, and the
others are compared with it. -/
def checkOffSlabCache (found : String) : SlabM PUnit := do
  let state <- get
  match state.offSlabCache with
  | none =>
      if found ∈ offSlabCaches then modify fun state => { state with offSlabCache := some found }
      else modify (SlabState.prErr (.offSlabWrongCache found))
  | some known =>
      if found = known then pure ⟨⟩ else modify (SlabState.prErr (.offSlabWrongCache found))

/-- The place of an off-slab `struct slab` within its own slab. -/
def checkOffSlabObject (structSlab : Sigma SlabSLAB) : SlabM PUnit := do
  let (contains, obj, _) <- raising (structSlab.2.containsObj slab.address)
  if contains then
    if obj = slab.address then pure ⟨⟩
    else modify (SlabState.prErr (.offSlabOffset ((slab.address : Int) - obj)))
  else modify (SlabState.prErr .offSlabNotAllocated)

/-- The checks of a `struct slab` that lies outside its slab. -/
def checkOffSlab : SlabM PUnit := do
  let found <- raising (fromObjAddr cache.toSlabSystem slab.address)
  match found with
  | none => modify (SlabState.prErr .offSlabNotSlab)
  | some structSlab => do
      checkOffSlabCache structSlab.1.name
      slab.checkOffSlabObject structSlab

/-- Only a `struct slab` can lie outside its slab. -/
def checkManagement : SlabM PUnit :=
  match cache.offSlab, slab.form with
  | true, .structSlab => slab.checkOffSlab
  | _, _ => pure ⟨⟩

/-- The counters of the slab. -/
def checkCounts (numFree : Nat) : SlabM PUnit :=
  if slab.nrInuse + numFree ≠ cache.objsPerSlab then
    modify (SlabState.prErr (.counts slab.nrInuse numFree cache.objsPerSlab))
  else pure ⟨⟩

/-- The list the slab is on. -/
def checkPlacement (slabtype : SlabType) (numFree : Nat) : SlabM PUnit :=
  if slabtype.Misfits cache.objsPerSlab numFree then
    modify (SlabState.freeError (.misplaced slabtype slab.nrInuse cache.objsPerSlab))
  else pure ⟨⟩

/-- The node of the page of a slab in the page form. -/
def checkOwnPage (nid : Nat) : SlabM PUnit :=
  match slab.form with
  | .structSlab => pure ⟨⟩
  | .pageSlab page =>
      if nid ≠ page.getNid cache.pageClass then
        modify (SlabState.prErr (.slabNid (page.getNid cache.pageClass) nid))
      else pure ⟨⟩

/-- An object that is free and cached at the same time. -/
def checkCached (table : List (Nat × ArrayCacheEntry)) (obj : Nat) : SlabM PUnit := do
  let state <- get
  if obj ∈ state.free ∧ obj ∈ table.map Prod.fst then
    modify (SlabState.prErr (.freeButCached obj))
  else pure ⟨⟩

/-- The slab pointer of the page of an object, in the struct form. -/
def checkSlabPointer (obj : Nat) (page : Page cache.pages) : SlabM PUnit :=
  match slab.form with
  | .pageSlab _ => pure ⟨⟩
  | .structSlab => do
      let found <- raising (fetched (page.getSlabPage cache.pageClass))
      if found ≠ slab.address then modify (SlabState.prErr (.wrongSlab obj found)) else pure ⟨⟩

/-- The checks of the page of an object. -/
def checkPage (nid obj : Nat) (page : Page cache.pages) : SlabM PUnit := do
  (if page.getNid cache.pageClass ≠ nid then
    modify (SlabState.prErr (.objNid obj (page.getNid cache.pageClass) nid)) else pure ⟨⟩)
  (if page.isSlab cache.pageClass = false then modify (SlabState.prErr (.notPageSlab obj))
    else pure ⟨⟩)
  let found <- raising (fetched (page.getSlabCache cache.pageClass))
  (if found ≠ cache.address then
    modify (SlabState.prErr (.wrongKmemCache obj found cache.address)) else pure ⟨⟩)
  slab.checkSlabPointer obj page

/-- The loop over the objects, with `last_page_addr`. -/
def checkObjects (table : List (Nat × ArrayCacheEntry)) (nid : Nat) :
    Nat -> List Nat -> SlabM PUnit
  | _, [] => pure ⟨⟩
  | lastPageAddr, obj :: rest => do
      checkCached table obj
      match Page.headOfAddr cache.pageClass cache.pages obj with
      | .error .notAvailable => do
          modify (SlabState.prErr (.noPage obj))
          checkObjects table nid lastPageAddr rest
      | .error error => throw (.gdb error)
      | .ok page =>
          if page.address = lastPageAddr then checkObjects table nid lastPageAddr rest
          else do
            slab.checkPage nid obj page
            checkObjects table nid page.address rest

/-- `check`. -/
def check (slabtype : SlabType) (nid : Nat) : SlabM Nat := do
  slab.populateFree
  let state <- get
  let numFree := state.free.card
  slab.checkManagement
  slab.checkCounts numFree
  slab.checkPlacement slabtype numFree
  slab.checkOwnPage nid
  let table <- onCaches cache.getArrayCaches
  slab.checkObjects table nid 0 slab.getObjects
  return numFree

/-! ## Objects in array caches -/

variable {slab}

/-- A relation between states that allows all that is done while the free objects are read. -/
structure AllowsFill (slab : SlabSLAB cache) (relation : SlabState -> SlabState -> Prop) : Prop where
  accumulates : Accumulates relation
  reports : forall report state, relation state (state.prErr report)
  inserts : forall idx state, idx < cache.objsPerSlab ->
    relation state { state with free := insert (slab.objectAt idx) state.free }
  marks : forall state, relation state { state with freePopulated := true }

section Filling

variable {relation : SlabState -> SlabState -> Prop} (allows : slab.AllowsFill relation)

include allows

theorem addFreeObjByIdx_evolves (idx : Nat) : Evolves relation (slab.addFreeObjByIdx idx) := by
  have accumulates := allows.accumulates
  simp only [addFreeObjByIdx]
  by_cases above : cache.objsPerSlab ≤ idx
  · rw [if_pos above]
    apply Evolves.updateThen accumulates (allows.reports _)
    exact Evolves.returns accumulates false
  · rw [if_neg above]
    apply Evolves.looks
    intro state
    by_cases present : slab.objectAt idx ∈ state.free
    · rw [if_pos present]
      apply Evolves.updateThen accumulates (allows.reports _)
      exact Evolves.returns accumulates false
    · rw [if_neg present]
      apply Evolves.updateThen accumulates
      · intro before
        exact allows.inserts idx before (Nat.lt_of_not_le above)
      · exact Evolves.returns accumulates true

theorem populateFromBufctl_evolves (fuel f : Nat) :
    Evolves relation (slab.populateFromBufctl fuel f) := by
  have accumulates := allows.accumulates
  induction fuel generalizing f with
  | zero => exact Evolves.returns accumulates _
  | succ fuel inductionHypothesis =>
      simp only [populateFromBufctl]
      by_cases ended : f = bufctlEnd
      · rw [if_pos ended]
        exact Evolves.returns accumulates _
      · rw [if_neg ended]
        apply Evolves.andThen accumulates (addFreeObjByIdx_evolves allows f)
        intro added
        cases added with
        | true =>
            apply Evolves.reads accumulates
            intro next
            exact inductionHypothesis next
        | false => exact Evolves.update (allows.reports _)

theorem doPopulateFree_evolves : Evolves relation slab.doPopulateFree := by
  have accumulates := allows.accumulates
  simp only [doPopulateFree]
  cases slab.form with
  | pageSlab page =>
      apply Evolves.loop accumulates
      intro i
      apply Evolves.reads accumulates
      intro idx
      apply Evolves.andThen accumulates (addFreeObjByIdx_evolves allows idx)
      intro _
      exact Evolves.returns accumulates _
  | structSlab =>
      apply Evolves.reads accumulates
      intro f
      exact populateFromBufctl_evolves allows _ f

/-- `populate_free` keeps to a relation that allows its steps, however it ends. -/
theorem populateFree_evolves : Evolves relation slab.populateFree := by
  apply Evolves.looks
  intro state
  by_cases done : state.freePopulated = true
  · rw [if_pos done]
    exact Evolves.returns allows.accumulates _
  · rw [if_neg done]
    apply Evolves.andThen allows.accumulates (doPopulateFree_evolves allows)
    intro _
    exact Evolves.update allows.marks

end Filling

/-- Reading the free objects of a slab leaves the array caches alone. -/
theorem populateFree_keepsCaches : Evolves (Keeps SlabState.caches) slab.populateFree :=
  populateFree_evolves
    ⟨keeps_accumulates SlabState.caches, fun _ _ => rfl, fun _ _ _ => rfl, fun _ => rfl⟩

/-- An object that is reported as allocated is in no array cache that
`get_array_caches` knows of. -/
theorem objInUse_allocated {addr : Nat} {detail : Option String} {before after : SlabState}
    (ran : (slab.objInUse addr).run before = .ok (true, detail) after) :
    Exists fun table : List (Nat × ArrayCacheEntry) => Exists fun caches : ArrayCaches =>
      cache.getArrayCaches.run before.caches = .ok table caches ∧ addr ∉ table.map Prod.fst := by
  rcases run_bind_ok ran with ⟨_, populated, populates, ran⟩
  rcases run_bind_ok ran with ⟨_, _, looked, ran⟩
  cases looked
  by_cases free : addr ∈ populated.free
  · rw [if_pos free] at ran
    cases ran
  · rw [if_neg free] at ran
    rcases run_bind_ok ran with ⟨table, filled, ranCaches, ran⟩
    rcases onCaches_eq_ok ranCaches with ⟨caches, fetches, _⟩
    have kept : populated.caches = before.caches := populateFree_keepsCaches.ok populates
    rw [kept] at fetches
    refine ⟨table, caches, fetches, fun member => ?_⟩
    cases known : table.lookup addr with
    | some entry =>
        rw [known] at ran
        cases ran
    | none =>
        rcases List.mem_map.mp member with ⟨entry, inside, same⟩
        have differs := List.lookup_eq_none_iff.mp known entry inside
        rw [same, bne_self_eq_false] at differs
        cases differs

end SlabSLAB

namespace KmemCacheSLAB

variable {cache : KmemCacheSLAB}

/-- If a fill was left by an exception, a later call returns only when something
was entered, and it returns what was entered. -/
theorem getArrayCaches_later {error : SlabException} (failed : failure cache.cachedReads = some error)
    {calls : Nat} {table : List (Nat × ArrayCacheEntry)} {after : ArrayCaches}
    (ran : cache.getArrayCaches.run (cache.afterCalls (calls + 1)) = .ok table after) :
    seen cache.cachedReads ≠ [] ∧ forall ptr, ptr ∈ table.map Prod.fst <-> ptr ∈ seen cache.cachedReads := by
  have gathered := cache.afterCalls_pointers calls
  by_cases empty : (cache.afterCalls (calls + 1)).table = []
  · rcases getArrayCaches_empty cache empty with ⟨_, _, same⟩
    rw [same, failed] at ran
    cases ran
  · rw [getArrayCaches_filled empty] at ran
    cases ran
    constructor
    · intro none
      rw [none] at gathered
      apply empty
      rw [pointers_eq_empty, gathered]
      ext ptr
      simp only [List.not_mem_nil, Set.mem_ofPred_eq, Set.mem_empty_iff_false]
    · intro ptr
      change ptr ∈ (cache.afterCalls (calls + 1)).pointers <-> ptr ∈ _
      rw [gathered]
      rfl

/-- Once something was entered, every later call returns. -/
theorem getArrayCaches_returns (entered : seen cache.cachedReads ≠ []) (calls : Nat) :
    Exists fun table : List (Nat × ArrayCacheEntry) =>
      cache.getArrayCaches.run (cache.afterCalls (calls + 1)) =
        .ok table (cache.afterCalls (calls + 1)) := by
  refine ⟨_, getArrayCaches_filled ?_⟩
  rw [ne_eq, pointers_eq_empty, cache.afterCalls_pointers calls]
  intro empty
  apply entered
  apply List.eq_nil_iff_forall_not_mem.mpr
  intro ptr member
  have impossible : ptr ∈ ({ptr | ptr ∈ seen cache.cachedReads} : Set Nat) := member
  rw [empty] at impossible
  exact impossible

/-- After a fill that was left by an exception, every call raises again or
returns all pointers of the array caches, and no cached object is reported as
allocated, exactly when the exception came before the first pointer or after
all of them. -/
theorem getArrayCaches_complete_iff (cache : KmemCacheSLAB) (error : SlabException)
    (left : ArrayCaches) (raised : cache.getArrayCaches.run {} = .error error left) :
    ((forall calls table after,
        cache.getArrayCaches.run (cache.afterCalls (calls + 1)) = .ok table after ->
          forall ptr, ptr ∈ table.map Prod.fst <-> cache.CachedPointer ptr) ∧
      forall calls (slab : SlabSLAB cache) before addr detail after,
        before.caches = cache.afterCalls (calls + 1) -> cache.CachedPointer addr ->
          (slab.objInUse addr).run before ≠ .ok (true, detail) after) <->
      seen cache.cachedReads = [] ∨
        forall ptr, cache.CachedPointer ptr -> ptr ∈ seen cache.cachedReads := by
  have failed : failure cache.cachedReads = some error := by
    rcases getArrayCaches_empty cache (show ({} : ArrayCaches).table = [] from rfl) with ⟨_, _, same⟩
    rw [same] at raised
    cases outcome : failure cache.cachedReads with
    | none =>
        rw [outcome] at raised
        cases raised
    | some other =>
        rw [outcome] at raised
        cases raised
        rfl
  constructor
  · rintro ⟨complete, _⟩
    by_cases entered : seen cache.cachedReads = []
    · exact Or.inl entered
    · refine Or.inr fun ptr cached => ?_
      rcases getArrayCaches_returns entered 0 with ⟨table, ran⟩
      exact ((getArrayCaches_later failed ran).2 ptr).mp ((complete 0 _ _ ran ptr).mpr cached)
  · intro condition
    have complete : forall calls table after,
        cache.getArrayCaches.run (cache.afterCalls (calls + 1)) = .ok table after ->
          forall ptr, ptr ∈ table.map Prod.fst <-> cache.CachedPointer ptr := by
      intro calls table after ran ptr
      rcases getArrayCaches_later failed ran with ⟨entered, keys⟩
      rw [keys]
      constructor
      · exact fun member => cachedPointer_of_mem (mem_of_mem_seen member)
      · rcases condition with none | all
        · exact False.elim (entered none)
        · exact all ptr
    refine ⟨complete, ?_⟩
    intro calls slab before addr detail after reached cached ran
    rcases SlabSLAB.objInUse_allocated ran with ⟨table, caches, fetches, absent⟩
    rw [reached] at fetches
    exact absent ((complete calls table caches fetches addr).mpr cached)

/-- One processor caches two pointers, and the page of the first of them is
not available. -/
def abortedCache : KmemCacheSLAB where
  pageSlab := true
  pageClass := { pgSlab := 128 }
  pages := fun address =>
    if address = 0xffffea0000000080 then
      { flags := .ok 128, compoundHead := .ok 0, slabCache := .ok 0xffff880000800000 }
    else { flags := .error .notAvailable }
  slabs := fun _ => { inuse := .ok 1, sMem := .ok 0xffff880000002000 }
  cpusOnline := [0]
  nidsPossible := [0]
  numaNodeId := fun _ => .ok 0
  name := "size-4096"
  address := 0xffff880000800000
  bufferSize := 4096
  objsPerSlab := 1
  percpu := fun _ => .ok ⟨.ok 2, fun i => .ok (if i = 0 then 0xffff880000001000 else 0xffff880000002000)⟩
  nodelist := fun _ => .ok none

/-- The slab of the second of the two pointers. -/
def abortedSlab : SlabSLAB abortedCache where
  address := 0xffffea0000000080
  form := .pageSlab ⟨0xffffea0000000080, 2, 128, rfl⟩
  nrInuse := 1
  sMem := 0xffff880000002000

theorem getArrayCaches_complete_iff_aborted :
    Exists fun left : ArrayCaches =>
      abortedCache.getArrayCaches.run {} = .error (.gdb .notAvailable) left ∧
        (((forall calls table after,
            abortedCache.getArrayCaches.run (abortedCache.afterCalls (calls + 1)) = .ok table after ->
              forall ptr, ptr ∈ table.map Prod.fst <-> abortedCache.CachedPointer ptr) ∧
          forall calls (slab : SlabSLAB abortedCache) before addr detail after,
            before.caches = abortedCache.afterCalls (calls + 1) -> abortedCache.CachedPointer addr ->
              (slab.objInUse addr).run before ≠ .ok (true, detail) after) <->
          seen abortedCache.cachedReads = [] ∨
            forall ptr, abortedCache.CachedPointer ptr -> ptr ∈ seen abortedCache.cachedReads) :=
  ⟨_, rfl, getArrayCaches_complete_iff abortedCache (.gdb .notAvailable) _ rfl⟩

/-- The second call returns the first pointer only, and the object behind the
second one is reported as allocated. -/
theorem getArrayCaches_returns_part :
    abortedCache.CachedPointer 0xffff880000002000 ∧
      (Exists fun left : ArrayCaches =>
        abortedCache.getArrayCaches.run {} = .error (.gdb .notAvailable) left ∧
          abortedCache.getArrayCaches.run left =
            .ok [(0xffff880000001000, ⟨.percpu, -1, 0⟩)] left ∧
          Exists fun after : SlabState =>
            (abortedSlab.objInUse 0xffff880000002000).run { caches := left } =
              .ok (true, none) after) := by
  constructor
  · exact .percpu (List.mem_singleton.mpr rfl) rfl ⟨2, 1, rfl, by decide, rfl⟩
  · exact ⟨_, rfl, rfl, _, rfl⟩

end KmemCacheSLAB
end Slab
end CrashPython

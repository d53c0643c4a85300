import CrashPython.Slab.SlabCheck
import Mathlib.Algebra.BigOperators.Group.Finset.Basic

namespace CrashPython
namespace Slab

open Library Types

/-!
# The slab lists of a node

`check_all` walks the three slab lists of each node, checks every slab it meets
and adds up their free objects.  A list that turns out to be corrupt is walked
once more in reverse order, and both counts are added.  The walks detect cycles
exactly, so that one walk meets a slab once; but a broken back link is reported
only after all slabs have been visited, and then the second walk visits them
again.

`Counted` remembers which slab contributed what to a count.
-/

/-- The lists are named in messages. -/
def SlabType.listName : SlabType -> String
  | .slabPartial => "partial"
  | .slabFull => "full"
  | .slabFree => "free"

/-- The head of a list of a node. -/
def SlabNode.slabList (node : SlabNode) : SlabType -> Nat
  | .slabPartial => node.slabsPartial
  | .slabFull => node.slabsFull
  | .slabFree => node.slabsFree

/-- The other list that an address is the head of.  Later entries of the
dictionary replace earlier ones. -/
def SlabNode.wrongList (node : SlabNode) (slabtype : SlabType) (addr : Nat) : Option SlabType :=
  [SlabType.slabFree, .slabFull, .slabPartial].find? fun other =>
    decide (other ≠ slabtype) && (node.slabList other == addr)

/-- The dictionary `errors`, which runs along a pass for the messages. -/
structure CheckErrors where
  firstOk : Option Nat := none
  lastOk : Option Nat := none
  numOk : Nat := 0
  lastMisplaced : Option SlabReport := none
  numMisplaced : Nat := 0
deriving DecidableEq, Repr

/-- What is printed in the course of a check. -/
inductive CacheReport where
  | slab (address : Nat) (report : SlabReport)
  | misplaced (count : Nat) (report : Option SlabReport)
  | slabsOk (count : Nat) (first last : Option Nat)
  | listHead (found traversed : SlabType)
  | slabFailed (listHead : Nat)
  | checkFailed (slab : Nat)
  | unrecoverable (slabtype : SlabType) (error : ListError)
  | retrying
  | mismatch (nid declared counted : Nat)
deriving DecidableEq, Repr

/-- The attributes of the cache that change, and what was printed. -/
structure CacheState where
  caches : ArrayCaches := {}
  offSlabCache : Option String := none
  reports : List CacheReport := []

/-- Code that works on a cache and can be left by an exception. -/
abbrev CacheM : Type -> Type :=
  EStateM SlabException CacheState

/-- Print a message. -/
def CacheState.print (report : CacheReport) (state : CacheState) : CacheState :=
  { state with reports := state.reports ++ [report] }

/-- One slab of a count: its address, what it contributed, and whether its check
returned without an error. -/
structure Counted where
  slab : Nat
  free : Nat
  sound : Bool
deriving DecidableEq, Repr

/-- The counters of a pass, with the slabs that went into them. -/
structure Tally where
  slabs : Nat := 0
  free : Nat := 0
  counted : List Counted := []
deriving DecidableEq, Repr

/-- Add a slab. -/
def Tally.add (tally : Tally) (entry : Counted) : Tally :=
  ⟨tally.slabs + 1, tally.free + entry.free, tally.counted ++ [entry]⟩

/-- Add the counters of another pass. -/
def Tally.join (first second : Tally) : Tally :=
  ⟨first.slabs + second.slabs, first.free + second.free, first.counted ++ second.counted⟩

/-- `except gdb.NotAvailableError`. -/
def exceptNotAvailable {Value : Type} (code handler : CacheM Value) : CacheM Value := fun state =>
  match code.run state with
  | .error (.gdb .notAvailable) after => handler.run after
  | outcome => outcome

/-- Code that works on a slab that was just made. -/
def withSlab {Value : Type} (address : Nat) (code : SlabM Value) : CacheM (Value × SlabState) :=
  fun state =>
    let absorb (slab : SlabState) : CacheState :=
      ⟨slab.caches, slab.offSlabCache, state.reports ++ slab.reports.map (.slab address)⟩
    match code.run { caches := state.caches, offSlabCache := state.offSlabCache } with
    | .ok value slab => .ok (value, slab) (absorb slab)
    | .error error slab => .error error (absorb slab)

namespace CheckErrors

/-- The misplaced slabs so far, if this one is not misplaced. -/
def flushMisplaced (errors : CheckErrors) (misplaced : Option SlabReport) :
    List CacheReport × CheckErrors :=
  if misplaced = none ∧ 0 < errors.numMisplaced then
    ([.misplaced errors.numMisplaced errors.lastMisplaced],
      { errors with numMisplaced := 0, lastMisplaced := none })
  else ([], errors)

/-- Another slab in order. -/
def noteOk (errors : CheckErrors) (address : Nat) : CheckErrors :=
  { errors with
    numOk := errors.numOk + 1
    lastOk := some address
    firstOk := if errors.firstOk = none ∨ errors.firstOk = some 0 then some address
      else errors.firstOk }

/-- The slabs in order so far, if this one is not. -/
def flushOk (errors : CheckErrors) : List CacheReport × CheckErrors :=
  if 0 < errors.numOk then
    ([.slabsOk errors.numOk errors.firstOk errors.lastOk],
      { errors with numOk := 0, firstOk := none, lastOk := none })
  else ([], errors)

/-- Another misplaced slab; the first one in a row is printed. -/
def noteMisplaced (errors : CheckErrors) : Option SlabReport -> List CacheReport × CheckErrors
  | none => ([], errors)
  | some report =>
      (if errors.numMisplaced = 0 then [.misplaced 1 (some report)] else [],
        { errors with numMisplaced := errors.numMisplaced + 1, lastMisplaced := some report })

/-- The part of `__check_slab` after the check. -/
def note (errors : CheckErrors) (address : Nat) (slab : SlabState) : List CacheReport × CheckErrors :=
  let (misplaced, errors) := errors.flushMisplaced slab.misplaced
  if slab.error then
    let (inOrder, errors) := errors.flushOk
    let (more, errors) := errors.noteMisplaced slab.misplaced
    (misplaced ++ inOrder ++ more, errors)
  else (misplaced, errors.noteOk address)

/-- The messages at the end of a pass. -/
def summary (errors : CheckErrors) : List CacheReport :=
  (if errors.numOk ≠ 0 ∧ errors.firstOk ≠ none ∧ errors.lastOk ≠ none then
    [.slabsOk errors.numOk errors.firstOk errors.lastOk] else []) ++
  if errors.numMisplaced ≠ 0 then [.misplaced errors.numMisplaced errors.lastMisplaced] else []

end CheckErrors

namespace KmemCacheSLAB

variable (cache : KmemCacheSLAB)

/-- `container_of` for a slab. -/
def slabOfListHead (listHead : Nat) : Nat :=
  pointerOf ((listHead : Int) - cache.slabListOffset)

/-- `__check_slab`. -/
def checkSlab (slab : SlabSLAB cache) (slabtype : SlabType) (nid : Nat) (errors : CheckErrors) :
    CacheM (Counted × CheckErrors) := do
  let (free, checked) <- withSlab slab.address (slab.check slabtype nid)
  let (printed, errors) := errors.note slab.address checked
  modify fun state => { state with reports := state.reports ++ printed }
  return (⟨slab.address, free, !checked.error⟩, errors)

/-- The loop body of `___check_slabs`.  A slab whose check fails is counted with
no free objects. -/
def visitSlab (slab : SlabSLAB cache) (slabtype : SlabType) (nid : Nat)
    (progress : Tally × CheckErrors) : CacheM (Tally × CheckErrors) := do
  let (entry, errors) <- exceptNotAvailable (cache.checkSlab slab slabtype nid progress.2) (do
    modify (CacheState.print (.checkFailed slab.address))
    return (⟨slab.address, 0, false⟩, progress.2))
  return (progress.1.add entry, errors)

/-- What `get_slabs_of_type` makes of a list head, with the loop body of its
consumer. -/
def visitListHead (node : SlabNode) (slabtype : SlabType) (nid : Nat)
    (progress : Tally × CheckErrors) (listHead : Nat) : CacheM (Tally × CheckErrors) :=
  match node.wrongList slabtype listHead with
  | some wrong => do
      modify (CacheState.print (.listHead wrong slabtype))
      return progress
  | none =>
      match SlabSLAB.make cache (cache.slabOfListHead listHead) with
      | .error .notAvailable => do
          modify (CacheState.print (.slabFailed listHead))
          return progress
      | .error error => throw (.gdb error)
      | .ok slab => cache.visitSlab slab slabtype nid progress

/-- The walk of a pass. -/
def slabWalk (node : SlabNode) (slabtype : SlabType) (reverse : Bool) : Run ListEvent ListError :=
  listRun cache.lists.image { reverse := reverse, exactCycles := true } (node.slabList slabtype)

/-- The end of a pass.  A corrupt list is reported; any other failure of the
walk leaves the check. -/
def endPass (slabtype : SlabType) : Ending ListError -> CacheM Bool
  | .completed => pure true
  | .raised error =>
      if error.errorClass.isCorruptListError then do
        modify (CacheState.print (.unrecoverable slabtype error))
        return false
      else throw (.listFailure error)

/-- `___check_slabs`. -/
def checkSlabsPass (node : SlabNode) (slabtype : SlabType) (nid : Nat) (reverse : Bool) :
    CacheM (Bool × Tally) := do
  let walk := cache.slabWalk node slabtype reverse
  let (tally, errors) <- (yieldedNodes walk.events).foldlM (cache.visitListHead node slabtype nid) ({}, {})
  let checkOk <- endPass slabtype walk.ending
  modify fun state => { state with reports := state.reports ++ errors.summary }
  return (checkOk, tally)

/-- `__check_slabs`. -/
def checkSlabs (node : SlabNode) (slabtype : SlabType) (nid : Nat) : CacheM Tally := do
  let (checkOk, tally) <- cache.checkSlabsPass node slabtype nid false
  if checkOk then return tally
  else
    modify (CacheState.print .retrying)
    let (_, again) <- cache.checkSlabsPass node slabtype nid true
    return tally.join again

/-- The counts for a node. -/
structure NodeCount where
  declared : Nat
  tally : SlabType -> Tally

/-- The variable `free_counted`. -/
def NodeCount.freeCounted (count : NodeCount) : Nat :=
  (count.tally .slabPartial).free + (count.tally .slabFull).free + (count.tally .slabFree).free

/-- The part of the loop body of `check_all` that counts. -/
def countNode (nid : Nat) (node : SlabNode) : CacheM NodeCount := do
  let declared <- raising (fetched node.freeObjects)
  let onPartial <- cache.checkSlabs node .slabPartial nid
  let onFull <- cache.checkSlabs node .slabFull nid
  let onFree <- cache.checkSlabs node .slabFree nid
  return ⟨declared, fun slabtype => match slabtype with
    | .slabPartial => onPartial
    | .slabFull => onFull
    | .slabFree => onFree⟩

/-- The loop body of `check_all` up to its message. -/
def checkNode (nid : Nat) (node : SlabNode) : CacheM PUnit := do
  let count <- cache.countNode nid node
  if count.declared ≠ count.freeCounted then
    modify (CacheState.print (.mismatch nid count.declared count.freeCounted))
  else pure ⟨⟩

/-- One pointer of `check_array_caches`.  All three messages format the entry of
the pointer as a number, which it is not. -/
def checkCachedPointer (ptr : Nat) : CacheM PUnit := do
  let found <- raising (SlabSLAB.fromObjAddr cache.toSlabSystem ptr)
  match found with
  | none => throw .typeError
  | some owner =>
      if owner.1.address ≠ cache.address then throw .typeError
      else do
        let (contains, obj, text) <- raising (owner.2.containsObj ptr)
        if contains = false ∧ text = none then throw .typeError
        else if obj ≠ ptr then throw .typeError
        else pure ⟨⟩

/-- `check_array_caches`. -/
def checkArrayCaches : CacheM PUnit := do
  let state <- get
  match cache.getArrayCaches.run state.caches with
  | .error error caches => do
      set { state with caches := caches }
      throw error
  | .ok table caches => do
      set { state with caches := caches }
      table.forM fun entry => cache.checkCachedPointer entry.1

/-- `check_all`. -/
def checkAll : CacheM PUnit :=
  cache.forNodelists fun nid node => do
    cache.checkNode nid node
    cache.checkArrayCaches

/-! ## What a pass counts -/

/-- The slab that a pass makes of a list head, if it makes one. -/
def slabAt (node : SlabNode) (slabtype : SlabType) (listHead : Nat) : Option (SlabSLAB cache) :=
  match node.wrongList slabtype listHead with
  | some _ => none
  | none => (SlabSLAB.make cache (cache.slabOfListHead listHead)).toOption

/-- The addresses of the slabs that a pass counts, in order. -/
def slabsOnWalk (node : SlabNode) (slabtype : SlabType) (reverse : Bool) : List Nat :=
  ((yieldedNodes (cache.slabWalk node slabtype reverse).events).filterMap
    (cache.slabAt node slabtype)).map SlabSLAB.address

/-- Memory lists this many free objects for the slab at an address. -/
def FreeNumber (address number : Nat) : Prop :=
  Exists fun slab : SlabSLAB cache => Exists fun indices : List Nat =>
    SlabSLAB.make cache address = .ok slab ∧ slab.FreeIndices indices ∧ slab.Proper indices ∧
      number = (slab.freeObjects indices).card

/-- What a slab in order contributed is the number of its free objects, and it
suits the list. -/
def Accurate (slabtype : SlabType) (entry : Counted) : Prop :=
  entry.sound = true ->
    ¬ slabtype.Misfits cache.objsPerSlab entry.free ∧ cache.FreeNumber entry.slab entry.free

/-- The tally counts these slabs. -/
structure Counts (slabtype : SlabType) (slabs : List Nat) (tally : Tally) : Prop where
  slabs : tally.counted.map Counted.slab = slabs
  free : tally.free = (tally.counted.map Counted.free).sum
  accurate : forall entry, entry ∈ tally.counted -> cache.Accurate slabtype entry

variable {cache}

theorem make_address {address : Nat} {slab : SlabSLAB cache}
    (made : SlabSLAB.make cache address = .ok slab) : slab.address = address := by
  simp only [SlabSLAB.make] at made
  cases inuse : (cache.slabs address).inuse with
  | error error =>
      rw [inuse] at made
      cases made
  | ok nrInuse =>
      cases formed : SlabSLAB.makeForm cache address with
      | error error =>
          rw [inuse, formed] at made
          cases made
      | ok form =>
          cases start : (cache.slabs address).sMem with
          | error error =>
              rw [inuse, formed, start] at made
              cases made
          | ok sMem =>
              rw [inuse, formed, start] at made
              cases made
              rfl

theorem withSlab_eq_ok {Value : Type} {address : Nat} {code : SlabM Value} {before after : CacheState}
    {value : Value} {slab : SlabState}
    (ran : (withSlab address code).run before = .ok (value, slab) after) :
    code.run { caches := before.caches, offSlabCache := before.offSlabCache } = .ok value slab := by
  simp only [withSlab, EStateM.run] at ran ⊢
  cases done : code { caches := before.caches, offSlabCache := before.offSlabCache } with
  | error error state =>
      rw [done] at ran
      cases ran
  | ok found state =>
      rw [done] at ran
      cases ran
      rfl

theorem exceptNotAvailable_eq_ok {Value : Type} {code handler : CacheM Value}
    {before after : CacheState} {value : Value}
    (ran : (exceptNotAvailable code handler).run before = .ok value after) :
    code.run before = .ok value after ∨
      Exists fun middle : CacheState => handler.run middle = .ok value after := by
  simp only [exceptNotAvailable, EStateM.run] at ran ⊢
  cases done : code before with
  | ok found state =>
      rw [done] at ran
      cases ran
      exact Or.inl rfl
  | error error state =>
      rw [done] at ran
      cases error with
      | gdb failed =>
          cases failed with
          | notAvailable => exact Or.inr ⟨state, ran⟩
          | memoryError => cases ran
      | _ => cases ran

section Passes

variable {node : SlabNode} {slabtype : SlabType} {nid : Nat} {before after : CacheState}

theorem counts_empty : cache.Counts slabtype [] {} where
  slabs := rfl
  free := rfl
  accurate := by
    intro entry member
    cases member

theorem counts_add {slabs : List Nat} {tally : Tally} {entry : Counted}
    (counts : cache.Counts slabtype slabs tally) (accurate : cache.Accurate slabtype entry) :
    cache.Counts slabtype (slabs ++ [entry.slab]) (tally.add entry) where
  slabs := by
    rw [Tally.add, List.map_append, counts.slabs]
    rfl
  free := by
    rw [Tally.add, List.map_append, List.sum_append, ← counts.free]
    rfl
  accurate := by
    intro other member
    rcases List.mem_append.mp member with earlier | last
    · exact counts.accurate other earlier
    · rw [List.mem_singleton.mp last]
      exact accurate

theorem counts_join {first second : List Nat} {tally again : Tally}
    (counts : cache.Counts slabtype first tally) (further : cache.Counts slabtype second again) :
    cache.Counts slabtype (first ++ second) (tally.join again) where
  slabs := by rw [Tally.join, List.map_append, counts.slabs, further.slabs]
  free := by rw [Tally.join, List.map_append, List.sum_append, ← counts.free, ← further.free]
  accurate := by
    intro entry member
    rcases List.mem_append.mp member with earlier | later
    · exact counts.accurate entry earlier
    · exact further.accurate entry later

/-- A check that returns gives an accurate entry. -/
theorem checkSlab_accurate {address : Nat} {slab : SlabSLAB cache} {errors : CheckErrors}
    {result : Counted × CheckErrors} (made : SlabSLAB.make cache address = .ok slab)
    (ran : (cache.checkSlab slab slabtype nid errors).run before = .ok result after) :
    result.1.slab = address ∧ cache.Accurate slabtype result.1 := by
  rcases run_bind_ok ran with ⟨⟨free, checked⟩, middle, checks, ran⟩
  rcases run_bind_ok ran with ⟨_, _, printed, returned⟩
  cases returned
  have here := make_address made
  refine ⟨here, fun sound => ?_⟩
  have quiet : checked.error = false := by
    cases flag : checked.error with
    | false => rfl
    | true =>
        change (!checked.error) = true at sound
        rw [flag] at sound
        cases sound
  rcases SlabSLAB.check_count ⟨rfl, rfl, rfl⟩ (withSlab_eq_ok checks) quiet with
    ⟨placed, indices, listed, proper, number⟩
  refine ⟨placed, slab, indices, ?_, listed, proper, number⟩
  change SlabSLAB.make cache slab.address = .ok slab
  rw [here]
  exact made

/-- A slab that is visited adds one entry of its own. -/
theorem visitSlab_counts {address : Nat} {slab : SlabSLAB cache} {slabs : List Nat}
    {progress result : Tally × CheckErrors} (made : SlabSLAB.make cache address = .ok slab)
    (counts : cache.Counts slabtype slabs progress.1)
    (ran : (cache.visitSlab slab slabtype nid progress).run before = .ok result after) :
    cache.Counts slabtype (slabs ++ [address]) result.1 := by
  rcases run_bind_ok ran with ⟨⟨entry, errors⟩, middle, checks, returned⟩
  cases returned
  have accurate : entry.slab = address ∧ cache.Accurate slabtype entry := by
    rcases exceptNotAvailable_eq_ok checks with checked | ⟨_, failed⟩
    · exact checkSlab_accurate made checked
    · rcases run_bind_ok failed with ⟨_, _, _, returned⟩
      cases returned
      refine ⟨make_address made, fun impossible => ?_⟩
      cases impossible
  rw [← accurate.1]
  exact counts_add counts accurate.2

/-- A list head adds the entry of its slab, if a slab is made of it. -/
theorem visitListHead_counts {listHead : Nat} {slabs : List Nat}
    {progress result : Tally × CheckErrors} (counts : cache.Counts slabtype slabs progress.1)
    (ran : (cache.visitListHead node slabtype nid progress listHead).run before = .ok result after) :
    cache.Counts slabtype
      (slabs ++ ((cache.slabAt node slabtype listHead).toList.map SlabSLAB.address)) result.1 := by
  simp only [visitListHead] at ran
  simp only [slabAt]
  cases heads : node.wrongList slabtype listHead with
  | some wrong =>
      simp only [heads] at ran
      rcases run_bind_ok ran with ⟨_, _, _, returned⟩
      cases returned
      simpa only [Option.toList_none, List.map_nil, List.append_nil] using counts
  | none =>
      cases made : SlabSLAB.make cache (cache.slabOfListHead listHead) with
      | error error =>
          simp only [heads, made] at ran
          cases error with
          | notAvailable =>
              rcases run_bind_ok ran with ⟨_, _, _, returned⟩
              cases returned
              simpa only [Except.toOption, Option.toList_none, List.map_nil, List.append_nil] using counts
          | memoryError => cases ran
      | ok slab =>
          simp only [heads, made] at ran
          have added := visitSlab_counts made counts ran
          rw [← make_address made] at added
          exact added

/-- The loop of a pass counts the slabs of the list heads it is given. -/
theorem visitListHeads_counts {listHeads slabs : List Nat} {progress result : Tally × CheckErrors}
    (counts : cache.Counts slabtype slabs progress.1)
    (ran : (listHeads.foldlM (cache.visitListHead node slabtype nid) progress).run before =
      .ok result after) :
    cache.Counts slabtype
      (slabs ++ ((listHeads.filterMap (cache.slabAt node slabtype)).map SlabSLAB.address)) result.1 := by
  induction listHeads generalizing slabs progress before with
  | nil =>
      cases ran
      simpa only [List.filterMap_nil, List.map_nil, List.append_nil] using counts
  | cons listHead rest inductionHypothesis =>
      rw [List.foldlM_cons] at ran
      rcases run_bind_ok ran with ⟨middle, state, visited, continued⟩
      have further := inductionHypothesis (visitListHead_counts counts visited) continued
      have shape : (listHead :: rest).filterMap (cache.slabAt node slabtype) =
          (cache.slabAt node slabtype listHead).toList ++
            rest.filterMap (cache.slabAt node slabtype) := by
        cases made : cache.slabAt node slabtype listHead with
        | none => rw [List.filterMap_cons_none made, Option.toList_none, List.nil_append]
        | some slab => rw [List.filterMap_cons_some made, Option.toList_some, List.singleton_append]
      rw [shape, List.map_append, ← List.append_assoc]
      exact further

/-- The walk ends with a `ListError`, which makes for a second pass. -/
def EndsCorrupt (cache : KmemCacheSLAB) (node : SlabNode) (slabtype : SlabType) : Prop :=
  Exists fun error : ListError =>
    (cache.slabWalk node slabtype false).ending = .raised error ∧
      error.errorClass.isCorruptListError = true

theorem checkSlabsPass_counts {reverse checkOk : Bool} {tally : Tally}
    (ran : (cache.checkSlabsPass node slabtype nid reverse).run before = .ok (checkOk, tally) after) :
    cache.Counts slabtype (cache.slabsOnWalk node slabtype reverse) tally ∧
      (checkOk = false <-> Exists fun error : ListError =>
        (cache.slabWalk node slabtype reverse).ending = .raised error ∧
          error.errorClass.isCorruptListError = true) := by
  rcases run_bind_ok ran with ⟨⟨counted, errors⟩, walked, visits, ran⟩
  rcases run_bind_ok ran with ⟨ok, ended, ends, ran⟩
  rcases run_bind_ok ran with ⟨_, _, printed, returned⟩
  cases returned
  constructor
  · have counts := visitListHeads_counts counts_empty visits
    exact counts
  · cases ending : (cache.slabWalk node slabtype reverse).ending with
    | completed =>
        rw [ending] at ends
        cases ends
        simp only [Bool.true_eq_false, reduceCtorEq, false_and, exists_false]
    | raised error =>
        rw [ending] at ends
        cases corrupt : error.errorClass.isCorruptListError with
        | false =>
            simp only [endPass, corrupt] at ends
            cases ends
        | true =>
            simp only [endPass, corrupt, if_true] at ends
            rcases run_bind_ok ends with ⟨_, _, _, returned⟩
            cases returned
            exact ⟨fun _ => ⟨error, rfl, corrupt⟩, fun _ => rfl⟩

/-- A list is counted once if its walk is in order, and in both directions if
the walk ends with a `ListError`. -/
theorem checkSlabs_counts {tally : Tally}
    (ran : (cache.checkSlabs node slabtype nid).run before = .ok tally after) :
    (EndsCorrupt cache node slabtype ∧ cache.Counts slabtype
        (cache.slabsOnWalk node slabtype false ++ cache.slabsOnWalk node slabtype true) tally) ∨
      (¬ EndsCorrupt cache node slabtype ∧
        cache.Counts slabtype (cache.slabsOnWalk node slabtype false) tally) := by
  rcases run_bind_ok ran with ⟨⟨checkOk, first⟩, middle, passed, ran⟩
  rcases checkSlabsPass_counts passed with ⟨counts, corrupt⟩
  cases checkOk with
  | true =>
      cases ran
      refine Or.inr ⟨fun ends => ?_, counts⟩
      cases corrupt.mpr ends
  | false =>
      rcases run_bind_ok ran with ⟨_, _, printed, ran⟩
      rcases run_bind_ok ran with ⟨⟨again, second⟩, last, repeated, returned⟩
      cases returned
      exact Or.inl ⟨corrupt.mp rfl, counts_join counts (checkSlabsPass_counts repeated).1⟩

end Passes

/-! ## Slabs that are counted once -/

theorem slabOfListHead_injective {first second : Nat} (firstWord : first < 2 ^ 64)
    (secondWord : second < 2 ^ 64)
    (same : cache.slabOfListHead first = cache.slabOfListHead second) : first = second := by
  simp only [slabOfListHead, pointerOf] at same
  omega

theorem slabAt_address {node : SlabNode} {slabtype : SlabType} {listHead : Nat}
    {slab : SlabSLAB cache} (made : cache.slabAt node slabtype listHead = some slab) :
    slab.address = cache.slabOfListHead listHead := by
  simp only [slabAt] at made
  cases heads : node.wrongList slabtype listHead with
  | some wrong =>
      rw [heads] at made
      cases made
  | none =>
      rw [heads] at made
      cases built : SlabSLAB.make cache (cache.slabOfListHead listHead) with
      | error error =>
          simp only [built] at made
          cases made
      | ok found =>
          simp only [built] at made
          cases made
          exact make_address built

theorem filterMap_slabAt_nodup {node : SlabNode} {slabtype : SlabType} {listHeads : List Nat}
    (distinct : listHeads.Nodup) (words : forall listHead, listHead ∈ listHeads -> listHead < 2 ^ 64) :
    ((listHeads.filterMap (cache.slabAt node slabtype)).map SlabSLAB.address).Nodup := by
  induction listHeads with
  | nil => exact List.nodup_nil
  | cons listHead rest inductionHypothesis =>
      have parts := List.nodup_cons.mp distinct
      have further := inductionHypothesis parts.2 fun other member =>
        words other (List.mem_cons_of_mem _ member)
      cases made : cache.slabAt node slabtype listHead with
      | none =>
          rw [List.filterMap_cons_none made]
          exact further
      | some slab =>
          rw [List.filterMap_cons_some made, List.map_cons]
          refine List.nodup_cons.mpr ⟨fun member => ?_, further⟩
          rcases List.mem_map.mp member with ⟨other, inside, same⟩
          rcases List.mem_filterMap.mp inside with ⟨later, position, alsoMade⟩
          rw [slabAt_address made, slabAt_address alsoMade] at same
          have equal := slabOfListHead_injective (words later (List.mem_cons_of_mem _ position))
            (words listHead List.mem_cons_self) same
          exact parts.1 (equal ▸ position)

/-- One walk meets every slab at most once. -/
theorem slabsOnWalk_nodup (node : SlabNode) (slabtype : SlabType) (reverse : Bool) :
    (cache.slabsOnWalk node slabtype reverse).Nodup := by
  apply filterMap_slabAt_nodup
  · exact listRun_nodup cache.lists.image _ rfl rfl
  · intro listHead member
    exact cache.lists.yielded_word rfl member

/-- The walk in list order does not end with a `ListError`, or the walk in
reverse order meets none of its slabs. -/
def MetOnce (cache : KmemCacheSLAB) (node : SlabNode) (slabtype : SlabType) : Prop :=
  ¬ EndsCorrupt cache node slabtype ∨
    forall slab, slab ∈ cache.slabsOnWalk node slabtype false ->
      slab ∉ cache.slabsOnWalk node slabtype true

theorem counted_nodup_iff {node : SlabNode} {slabtype : SlabType} {nid : Nat}
    {before after : CacheState} {tally : Tally}
    (ran : (cache.checkSlabs node slabtype nid).run before = .ok tally after) :
    (tally.counted.map Counted.slab).Nodup <-> MetOnce cache node slabtype := by
  rcases checkSlabs_counts ran with ⟨corrupt, counts⟩ | ⟨orderly, counts⟩
  · rw [counts.slabs, List.nodup_append]
    constructor
    · rintro ⟨_, _, apart⟩
      exact Or.inr fun slab forward backward => apart slab forward slab backward rfl
    · rintro (orderly | apart)
      · exact False.elim (orderly corrupt)
      · refine ⟨slabsOnWalk_nodup node slabtype false, slabsOnWalk_nodup node slabtype true, ?_⟩
        intro slab forward other backward same
        exact apart slab forward (same ▸ backward)
  · rw [counts.slabs]
    exact ⟨fun _ => Or.inl orderly, fun _ => slabsOnWalk_nodup node slabtype false⟩

/-! ## The counts of a node -/

/-- The slabs that went into the count of a list. -/
def NodeCount.onList (count : NodeCount) (slabtype : SlabType) : Finset Nat :=
  ((count.tally slabtype).counted.map Counted.slab).toFinset

/-- All slabs that went into the count of a node. -/
def NodeCount.slabs (count : NodeCount) : Finset Nat :=
  count.onList .slabPartial ∪ count.onList .slabFull ∪ count.onList .slabFree

/-- Every slab was checked without an error. -/
def NodeCount.Sound (count : NodeCount) : Prop :=
  forall slabtype entry, entry ∈ (count.tally slabtype).counted -> entry.sound = true

theorem freeNumber_unique {address first second : Nat} (one : cache.FreeNumber address first)
    (other : cache.FreeNumber address second) : first = second := by
  rcases one with ⟨slab, indices, made, listed, _, rfl⟩
  rcases other with ⟨again, others, alsoMade, alsoListed, _, rfl⟩
  rw [made] at alsoMade
  cases alsoMade
  rw [SlabSLAB.freeIndices_unique listed alsoListed]

/-- A number of free objects that suits two different lists is zero. -/
theorem misfits_of_ne {first second : SlabType} {maxFree number : Nat} (different : first ≠ second)
    (suitsFirst : ¬ first.Misfits maxFree number) (suitsSecond : ¬ second.Misfits maxFree number) :
    number = 0 := by
  cases first <;> cases second <;> simp only [SlabType.Misfits] at suitsFirst suitsSecond <;>
    first
    | exact False.elim (different rfl)
    | omega

theorem countNode_tally {nid : Nat} {node : SlabNode} {before after : CacheState} {count : NodeCount}
    (ran : (cache.countNode nid node).run before = .ok count after) (slabtype : SlabType) :
    Exists fun start : CacheState => Exists fun stop : CacheState =>
      (cache.checkSlabs node slabtype nid).run start = .ok (count.tally slabtype) stop := by
  rcases run_bind_ok ran with ⟨declared, _, _, ran⟩
  rcases run_bind_ok ran with ⟨onPartial, _, ranPartial, ran⟩
  rcases run_bind_ok ran with ⟨onFull, _, ranFull, ran⟩
  rcases run_bind_ok ran with ⟨onFree, _, ranFree, returned⟩
  cases returned
  cases slabtype with
  | slabPartial => exact ⟨_, _, ranPartial⟩
  | slabFull => exact ⟨_, _, ranFull⟩
  | slabFree => exact ⟨_, _, ranFree⟩

section Node

variable {nid : Nat} {node : SlabNode} {before after : CacheState} {count : NodeCount}
  {number : Nat -> Nat}

theorem tally_counts (ran : (cache.countNode nid node).run before = .ok count after)
    (slabtype : SlabType) : Exists fun slabs : List Nat =>
      cache.Counts slabtype slabs (count.tally slabtype) := by
  rcases countNode_tally ran slabtype with ⟨_, _, counted⟩
  rcases checkSlabs_counts counted with ⟨_, counts⟩ | ⟨_, counts⟩
  · exact ⟨_, counts⟩
  · exact ⟨_, counts⟩

/-- What the count of a list is, if its slabs are in order and counted once. -/
theorem tally_free (ran : (cache.countNode nid node).run before = .ok count after)
    (sound : count.Sound)
    (numbers : forall slab, slab ∈ count.slabs -> cache.FreeNumber slab (number slab))
    {slabtype : SlabType} (inside : count.onList slabtype ⊆ count.slabs)
    (once : ((count.tally slabtype).counted.map Counted.slab).Nodup) :
    (count.tally slabtype).free = ∑ slab ∈ count.onList slabtype, number slab := by
  rcases tally_counts ran slabtype with ⟨slabs, counts⟩
  rw [counts.free, NodeCount.onList, List.sum_toFinset number once, List.map_map]
  apply congrArg List.sum
  apply List.map_congr_left
  intro entry member
  have accurate := counts.accurate entry member (sound slabtype entry member)
  apply freeNumber_unique accurate.2
  apply numbers
  apply inside
  exact List.mem_toFinset.mpr (List.mem_map_of_mem member)

/-- A slab on two lists has no free objects. -/
theorem number_eq_zero (ran : (cache.countNode nid node).run before = .ok count after)
    (sound : count.Sound)
    (numbers : forall slab, slab ∈ count.slabs -> cache.FreeNumber slab (number slab))
    {first second : SlabType} (different : first ≠ second) {slab : Nat} (known : slab ∈ count.slabs)
    (onFirst : slab ∈ count.onList first) (onSecond : slab ∈ count.onList second) :
    number slab = 0 := by
  have suits {slabtype : SlabType} (here : slab ∈ count.onList slabtype) :
      ¬ slabtype.Misfits cache.objsPerSlab (number slab) := by
    rcases tally_counts ran slabtype with ⟨slabs, counts⟩
    rcases List.mem_map.mp (List.mem_toFinset.mp here) with ⟨entry, member, rfl⟩
    have accurate := counts.accurate entry member (sound slabtype entry member)
    rw [← freeNumber_unique accurate.2 (numbers entry.slab known)]
    exact accurate.1
  exact misfits_of_ne different (suits onFirst) (suits onSecond)

/-- The count of a node whose slabs are in order and counted once is the number
of their free objects. -/
theorem freeCounted_eq_sum (ran : (cache.countNode nid node).run before = .ok count after)
    (once : forall slabtype, ((count.tally slabtype).counted.map Counted.slab).Nodup)
    (sound : count.Sound)
    (numbers : forall slab, slab ∈ count.slabs -> cache.FreeNumber slab (number slab)) :
    count.freeCounted = ∑ slab ∈ count.slabs, number slab := by
  have insidePartial : count.onList .slabPartial ⊆ count.slabs :=
    Finset.subset_union_left.trans Finset.subset_union_left
  have insideFull : count.onList .slabFull ⊆ count.slabs :=
    Finset.subset_union_right.trans Finset.subset_union_left
  have insideFree : count.onList .slabFree ⊆ count.slabs := Finset.subset_union_right
  have shared : ∑ slab ∈ count.onList .slabPartial ∩ count.onList .slabFull, number slab = 0 := by
    apply Finset.sum_eq_zero
    intro slab member
    have parts := Finset.mem_inter.mp member
    exact number_eq_zero ran sound numbers (by decide) (insidePartial parts.1) parts.1 parts.2
  have sharedFree : ∑ slab ∈ (count.onList .slabPartial ∪ count.onList .slabFull) ∩
      count.onList .slabFree, number slab = 0 := by
    apply Finset.sum_eq_zero
    intro slab member
    have parts := Finset.mem_inter.mp member
    rcases Finset.mem_union.mp parts.1 with onPartial | onFull
    · exact number_eq_zero ran sound numbers (by decide) (insideFree parts.2) onPartial parts.2
    · exact number_eq_zero ran sound numbers (by decide) (insideFree parts.2) onFull parts.2
  have both : ∑ slab ∈ count.onList .slabPartial ∪ count.onList .slabFull, number slab =
      ∑ slab ∈ count.onList .slabPartial, number slab + ∑ slab ∈ count.onList .slabFull, number slab := by
    rw [← Finset.sum_union_inter, shared, Nat.add_zero]
  have all : ∑ slab ∈ count.onList .slabPartial ∪ count.onList .slabFull ∪ count.onList .slabFree,
      number slab = ∑ slab ∈ count.onList .slabPartial ∪ count.onList .slabFull, number slab +
        ∑ slab ∈ count.onList .slabFree, number slab := by
    rw [← Finset.sum_union_inter, sharedFree, Nat.add_zero]
  rw [NodeCount.slabs, all, both, NodeCount.freeCounted,
    tally_free ran sound numbers insidePartial (once .slabPartial),
    tally_free ran sound numbers insideFull (once .slabFull),
    tally_free ran sound numbers insideFree (once .slabFree)]

/-- `check_all` reports a mismatch for the node: after the count the message is
printed. -/
def ReportsMismatch (cache : KmemCacheSLAB) (nid : Nat) (node : SlabNode) (before : CacheState) :
    Prop :=
  Exists fun count : NodeCount => Exists fun after : CacheState =>
    Exists fun declared : Nat => Exists fun counted : Nat =>
      (cache.countNode nid node).run before = .ok count after ∧
        (cache.checkNode nid node).run before = .ok ⟨⟩ (after.print (.mismatch nid declared counted))

theorem reportsMismatch_iff (ran : (cache.countNode nid node).run before = .ok count after) :
    ReportsMismatch cache nid node before <-> count.declared ≠ count.freeCounted := by
  have outcome : (cache.checkNode nid node).run before =
      (if count.declared ≠ count.freeCounted then
        modify (CacheState.print (.mismatch nid count.declared count.freeCounted))
      else pure ⟨⟩ : CacheM PUnit).run after := by
    rw [checkNode, EStateM.run_bind, ran]
  constructor
  · rintro ⟨again, counted, _, _, alsoRan, printed⟩ equal
    rw [ran] at alsoRan
    cases alsoRan
    rw [outcome, if_neg (not_not.mpr equal)] at printed
    have lengths := congrArg (fun state => state.reports.length) (EStateM.Result.ok.inj printed).2
    simp only [CacheState.print, List.length_append, List.length_singleton] at lengths
    omega
  · intro differs
    refine ⟨count, after, count.declared, count.freeCounted, ran, ?_⟩
    rw [outcome, if_pos differs]
    rfl

/-- The free objects of the lists of a node are added up with every slab counted
at most once, so that a node whose slabs are in order is reported exactly when
the declared number is not the number of their free objects, if and only if the
slabs of each list are met by one of the two walks only. -/
theorem checkNode_counts_iff (cache : KmemCacheSLAB) (nid : Nat) (node : SlabNode)
    (before after : CacheState) (count : NodeCount)
    (ran : (cache.countNode nid node).run before = .ok count after) :
    ((forall slabtype, ((count.tally slabtype).counted.map Counted.slab).Nodup ∧
        (count.tally slabtype).free = ((count.tally slabtype).counted.map Counted.free).sum) ∧
      (count.Sound -> forall number : Nat -> Nat,
        (forall slab, slab ∈ count.slabs -> cache.FreeNumber slab (number slab)) ->
          (ReportsMismatch cache nid node before <->
            count.declared ≠ ∑ slab ∈ count.slabs, number slab))) <->
      forall slabtype, MetOnce cache node slabtype := by
  constructor
  · rintro ⟨once, _⟩ slabtype
    rcases countNode_tally ran slabtype with ⟨_, _, counted⟩
    exact (counted_nodup_iff counted).mp (once slabtype).1
  · intro met
    have once : forall slabtype, ((count.tally slabtype).counted.map Counted.slab).Nodup := by
      intro slabtype
      rcases countNode_tally ran slabtype with ⟨_, _, counted⟩
      exact (counted_nodup_iff counted).mpr (met slabtype)
    refine ⟨fun slabtype => ⟨once slabtype, ?_⟩, ?_⟩
    · rcases tally_counts ran slabtype with ⟨slabs, counts⟩
      exact counts.free
    · intro sound number numbers
      rw [reportsMismatch_iff ran, freeCounted_eq_sum ran once sound numbers]

end Node

/-- A cache with one slab of one free object, whose list head is linked from
the head of its list in both directions and leads back to it with the next link
only. -/
def unlinkedCache : KmemCacheSLAB where
  pageSlab := false
  lists := .ofTable [(0x1000, ⟨0x1000, 0x1000⟩), (0x2000, ⟨0x2000, 0x2000⟩),
    (0x3000, ⟨0xffff880000700000, 0xffff880000700000⟩), (0xffff880000700000, ⟨0x3000, 0⟩)] (by decide)
  pageClass := { pgSlab := 128 }
  pages := SlabSLAB.ownPages
  slabs := fun _ =>
    { inuse := .ok 0, sMem := .ok 0xffff880000001000, free := .ok 0, index := fun _ => .ok bufctlEnd }
  cpusOnline := []
  nidsPossible := [0]
  numaNodeId := fun _ => .ok 0
  name := "size-32"
  address := 0xffff880000800000
  bufferSize := 32
  objsPerSlab := 1
  percpu := fun _ => .error .delayedAttribute
  nodelist := fun _ => .ok none

/-- The node of the slab, which declares its one free object. -/
def unlinkedNode : SlabNode where
  freeObjects := .ok 1
  slabsPartial := 0x1000
  slabsFull := 0x2000
  slabsFree := 0x3000
  shared := .ok none
  alien := .ok none

theorem checkNode_counts_iff_unlinked :
    Exists fun count : NodeCount => Exists fun after : CacheState =>
      (unlinkedCache.countNode 0 unlinkedNode).run {} = .ok count after ∧
        (((forall slabtype, ((count.tally slabtype).counted.map Counted.slab).Nodup ∧
            (count.tally slabtype).free = ((count.tally slabtype).counted.map Counted.free).sum) ∧
          (count.Sound -> forall number : Nat -> Nat,
            (forall slab, slab ∈ count.slabs -> unlinkedCache.FreeNumber slab (number slab)) ->
              (ReportsMismatch unlinkedCache 0 unlinkedNode {} <->
                count.declared ≠ ∑ slab ∈ count.slabs, number slab))) <->
          forall slabtype, MetOnce unlinkedCache unlinkedNode slabtype) :=
  ⟨_, _, rfl, checkNode_counts_iff unlinkedCache 0 unlinkedNode {} _ _ rfl⟩

/-- The slab is in order, and it is counted twice. -/
theorem checkNode_counts_twice :
    Exists fun count : NodeCount => Exists fun after : CacheState =>
      (unlinkedCache.countNode 0 unlinkedNode).run {} = .ok count after ∧ count.declared = 1 ∧
        (count.tally .slabFree).counted =
          [⟨0xffff880000700000, 1, true⟩, ⟨0xffff880000700000, 1, true⟩] ∧
        (count.tally .slabFree).free = 2 ∧
        (unlinkedCache.checkNode 0 unlinkedNode).run {} = .ok ⟨⟩ (after.print (.mismatch 0 1 2)) :=
  ⟨_, _, rfl, rfl, rfl, rfl, rfl⟩

end KmemCacheSLAB
end Slab
end CrashPython

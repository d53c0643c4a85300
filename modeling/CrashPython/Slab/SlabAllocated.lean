import CrashPython.Library.Generator
import CrashPython.Slab.SlabCheck

namespace CrashPython
namespace Slab

open Library Types

/-!
# The allocated objects of a SLAB slab

`populate_free` reads the free objects of a slab from memory that may hold anything, and
`get_allocated_objects` goes through all objects and leaves out those that are free or in
an array cache.

The array caches are read when the first object is met that is not free, if the dictionary
of the cache is still empty then.  So they are known before anything is yielded, or cannot
be read at all.
-/

namespace SlabSLAB

variable {cache : KmemCacheSLAB} (slab : SlabSLAB cache)

/-- The loop of `get_allocated_objects`, with the state it leaves. -/
def allocatedAmong : List Nat -> SlabState -> Run Nat SlabException × SlabState
  | [], state => (⟨[], .completed⟩, state)
  | obj :: rest, state =>
      match (slab.objInUse obj).run state with
      | .error error after => (⟨[], .raised error⟩, after)
      | .ok (inUse, _) after =>
          ((allocatedAmong rest after).1.after (if inUse then [obj] else []),
            (allocatedAmong rest after).2)

/-- `get_allocated_objects`. -/
def getAllocatedObjects (state : SlabState) : Run Nat SlabException × SlabState :=
  slab.allocatedAmong slab.getObjects state

/-! ## The free objects -/

/-- The free objects stay among the objects of the slab. -/
def StaysWithin (before after : SlabState) : Prop :=
  slab.Within before.free -> slab.Within after.free

variable {slab}

theorem staysWithin_allowsFill : slab.AllowsFill slab.StaysWithin where
  accumulates := ⟨fun _ within => within, fun first second within => second (first within)⟩
  reports := fun _ _ within => within
  inserts := fun _ _ below within => within_insert within below
  marks := fun _ within => within

/-- `populate_free` adds objects of the slab only, however it ends. -/
theorem populateFree_within : Evolves slab.StaysWithin slab.populateFree :=
  populateFree_evolves staysWithin_allowsFill

/-- The loop over the chain ends within the rounds it is given: more of them make no
difference. -/
theorem populateFromBufctl_ends {fuel more f : Nat} {state : SlabState}
    (within : slab.Within state.free) (enough : cache.objsPerSlab < fuel + state.free.card)
    (larger : fuel ≤ more) :
    (slab.populateFromBufctl more f).run state = (slab.populateFromBufctl fuel f).run state := by
  induction fuel generalizing more f state with
  | zero =>
      rw [Nat.zero_add] at enough
      exact False.elim (Nat.not_lt.mpr (within_card within) enough)
  | succ fuel inductionHypothesis =>
      cases more with
      | zero => exact False.elim (Nat.not_succ_le_zero _ larger)
      | succ more =>
          simp only [populateFromBufctl]
          by_cases ended : f = bufctlEnd
          · rw [if_pos ended, if_pos ended]
          · rw [if_neg ended, if_neg ended, EStateM.run_bind, EStateM.run_bind]
            by_cases fits : f < cache.objsPerSlab ∧ slab.objectAt f ∉ state.free
            · rw [addFreeObjByIdx_fits fits]
              cases (cache.slabs slab.address).index f with
              | error error => rfl
              | ok next =>
                  simp only [if_true]
                  have grown : cache.objsPerSlab <
                      fuel + (insert (slab.objectAt f) state.free).card := by
                    rw [Finset.card_insert_of_notMem fits.2]
                    omega
                  exact inductionHypothesis (within_insert within fits.1) grown
                    (Nat.le_of_succ_le_succ larger)
            · rcases addFreeObjByIdx_misfits fits with ⟨report, added⟩
              rw [added]
              rfl

end SlabSLAB

namespace KmemCacheSLAB

variable {cache : KmemCacheSLAB}

/-! ## A fill that reads everything -/

/-- No read of the trace fails. -/
def Clean (trace : List (Except SlabException Nat)) : Prop :=
  forall error, .error error ∉ trace

theorem clean_of_failure {trace : List (Except SlabException Nat)} (none : failure trace = none) :
    Clean trace := by
  induction trace with
  | nil => exact fun _ => List.not_mem_nil
  | cons read rest inductionHypothesis =>
      intro error member
      cases read with
      | error first => cases none
      | ok value =>
          rcases List.mem_cons.mp member with impossible | later
          · cases impossible
          · exact inductionHypothesis none error later

/-- Without a failure, what is read is seen. -/
theorem mem_seen_of_clean {trace : List (Except SlabException Nat)} (clean : Clean trace) {ptr : Nat}
    (member : .ok ptr ∈ trace) : ptr ∈ seen trace := by
  induction trace with
  | nil => cases member
  | cons read rest inductionHypothesis =>
      cases read with
      | error error => exact False.elim (clean error List.mem_cons_self)
      | ok value =>
          rcases List.mem_cons.mp member with same | later
          · rw [Except.ok.inj same]
            exact List.mem_cons_self
          · exact List.mem_cons_of_mem _ (inductionHypothesis
              (fun error inside => clean error (List.mem_cons_of_mem _ inside)) later)

theorem clean_flatMap {Item : Type} {items : List Item}
    {trace : Item -> List (Except SlabException Nat)} (clean : Clean (items.flatMap trace))
    {item : Item} (member : item ∈ items) : Clean (trace item) :=
  fun error inside => clean error (List.mem_flatMap.mpr ⟨item, member, inside⟩)

theorem clean_append {first second : List (Except SlabException Nat)}
    (clean : Clean (first ++ second)) : Clean first ∧ Clean second :=
  ⟨fun error inside => clean error (List.mem_append_left _ inside),
    fun error inside => clean error (List.mem_append_right _ inside)⟩

/-- A clean trace starts with a read that succeeds. -/
theorem clean_readThen {Found : Type} {read : Except SlabException Found}
    {trace : Found -> List (Except SlabException Nat)} (clean : Clean (readThen read trace)) :
    Exists fun found : Found => read = .ok found := by
  cases read with
  | error error => exact False.elim (clean error (List.mem_singleton.mpr rfl))
  | ok found => exact ⟨found, rfl⟩

theorem fetched_ok {Found : Type} {read : Except GdbError Found} {found : Found}
    (success : read = .ok found) : fetched read = .ok found := by
  rw [success]
  rfl

/-- The entries of an array cache are read. -/
theorem mem_arrayCacheReads {acType : ACType} {nidTgt ptr : Nat} {acache : ArrayCache}
    (clean : Clean (cache.arrayCacheReads acType nidTgt acache)) (holds : acache.Holds ptr) :
    .ok ptr ∈ cache.arrayCacheReads acType nidTgt acache := by
  rcases holds with ⟨avail, i, readable, bounded, entry⟩
  simp only [arrayCacheReads] at clean ⊢
  rw [fetched_ok readable] at clean ⊢
  change Clean (if avail = 0 then [] else _) at clean
  change _ ∈ (if avail = 0 then [] else _)
  have some : ¬ avail = 0 := Nat.ne_of_gt (Nat.lt_of_le_of_lt (Nat.zero_le i) bounded)
  rw [if_neg some] at clean ⊢
  rcases clean_readThen clean with ⟨nid, found⟩
  rw [found]
  refine List.mem_flatMap.mpr ⟨i, List.mem_range.mpr bounded, ?_⟩
  simp only [entryReads]
  rw [fetched_ok entry]
  exact List.mem_cons_self

theorem forEachNid_of_possible {nid : Nat} (possible : nid ∈ cache.nidsPossible) :
    cache.forEachNid = .ok cache.nidsPossible := by
  simp only [forEachNid]
  exact if_neg (List.ne_nil_of_mem possible)

/-- If no read of a fill fails, all pointers in the array caches are read. -/
theorem mem_cachedReads {ptr : Nat} (clean : Clean cache.cachedReads)
    (cached : cache.CachedPointer ptr) : .ok ptr ∈ cache.cachedReads := by
  have parts := clean_append clean
  have nodes : forall {nid : Nat} {node : SlabNode}, nid ∈ cache.nidsPossible ->
      cache.nodelist nid = .ok (some node) ->
        (Clean (cache.nodeReads nid node) ∧
          (.ok ptr ∈ cache.nodeReads nid node -> .ok ptr ∈ cache.cachedReads)) := by
    intro nid node possible known
    have cleanNodes := parts.2
    rw [forEachNid_of_possible possible] at cleanNodes
    have cleanNode := clean_flatMap cleanNodes possible
    rw [fetched_ok known] at cleanNode
    refine ⟨cleanNode, fun member => List.mem_append_right _ ?_⟩
    rw [forEachNid_of_possible possible]
    refine List.mem_flatMap.mpr ⟨nid, possible, ?_⟩
    rw [fetched_ok known]
    exact member
  cases cached with
  | @percpu cpu array online found holds =>
      have cleanCpu := clean_flatMap parts.1 online
      simp only [percpuReads] at cleanCpu
      rw [found] at cleanCpu
      refine List.mem_append_left _ (List.mem_flatMap.mpr ⟨cpu, online, ?_⟩)
      simp only [percpuReads]
      rw [found]
      exact mem_arrayCacheReads cleanCpu holds
  | @shared nid node array possible known found holds =>
      rcases nodes possible known with ⟨cleanNode, onward⟩
      apply onward
      simp only [nodeReads] at cleanNode ⊢
      rw [fetched_ok found] at cleanNode ⊢
      exact List.mem_append_left _ (mem_arrayCacheReads (clean_append cleanNode).1 holds)
  | @alien nidSrc nid node alien array source known possible table found foreign holds =>
      rcases nodes source known with ⟨cleanNode, onward⟩
      apply onward
      simp only [nodeReads] at cleanNode ⊢
      rcases clean_readThen cleanNode with ⟨shared, sharedFound⟩
      rw [sharedFound] at cleanNode ⊢
      refine List.mem_append_right _ ?_
      have cleanAlien := (clean_append cleanNode).2
      simp only [alienReads] at cleanAlien ⊢
      rw [fetched_ok table] at cleanAlien ⊢
      change Clean (readThen cache.forEachNid _) at cleanAlien
      change _ ∈ readThen cache.forEachNid _
      rw [forEachNid_of_possible possible] at cleanAlien ⊢
      have cleanArray := clean_flatMap cleanAlien possible
      refine List.mem_flatMap.mpr ⟨nid, possible, ?_⟩
      simp only [alienCacheReads] at cleanArray ⊢
      rw [fetched_ok found] at cleanArray ⊢
      change Clean (if nidSrc = nid then [] else _) at cleanArray
      change _ ∈ (if nidSrc = nid then [] else _)
      rw [if_neg foreign] at cleanArray ⊢
      exact mem_arrayCacheReads cleanArray holds

/-- What a fill sees, if no read of it fails. -/
theorem mem_seen_iff (none : failure cache.cachedReads = none) (ptr : Nat) :
    ptr ∈ seen cache.cachedReads <-> cache.CachedPointer ptr := by
  have clean := clean_of_failure none
  constructor
  · intro member
    exact cachedPointer_of_mem (mem_of_mem_seen member)
  · intro cached
    exact mem_seen_of_clean clean (mem_cachedReads clean cached)

/-- The pointers that a slab takes for cached: those in the dictionary, or, as long as it is
empty, those in memory. -/
def Cached (cache : KmemCacheSLAB) (caches : ArrayCaches) (ptr : Nat) : Prop :=
  if caches.table = [] then cache.CachedPointer ptr else ptr ∈ caches.pointers

/-- The dictionary is there, or can be filled. -/
def Readable (cache : KmemCacheSLAB) (caches : ArrayCaches) : Prop :=
  caches.table = [] -> failure cache.cachedReads = none

/-- `get_array_caches` returns the pointers that are taken for cached, and leaves the same
ones. -/
theorem getArrayCaches_readable {caches : ArrayCaches} (readable : cache.Readable caches) :
    Exists fun table : List (Nat × ArrayCacheEntry) => Exists fun after : ArrayCaches =>
      cache.getArrayCaches.run caches = .ok table after ∧
        (forall ptr, ptr ∈ table.map Prod.fst <-> cache.Cached caches ptr) ∧
        (forall ptr, cache.Cached after ptr <-> cache.Cached caches ptr) ∧
        cache.Readable after := by
  by_cases empty : caches.table = []
  · have failed := readable empty
    rcases getArrayCaches_empty cache empty with ⟨after, gathered, ran⟩
    rw [failed] at ran
    have keys : forall ptr, ptr ∈ after.table.map Prod.fst <-> cache.CachedPointer ptr := by
      intro ptr
      rw [← mem_seen_iff failed]
      change ptr ∈ after.pointers <-> _
      rw [gathered]
      rfl
    have before : forall ptr, cache.Cached caches ptr <-> cache.CachedPointer ptr := by
      intro ptr
      simp only [Cached]
      rw [if_pos empty]
    refine ⟨after.table, after, ran, fun ptr => (keys ptr).trans (before ptr).symm, ?_,
      fun _ => failed⟩
    intro ptr
    rw [before]
    simp only [Cached]
    by_cases still : after.table = []
    · rw [if_pos still]
    · rw [if_neg still]
      exact keys ptr
  · refine ⟨caches.table, caches, getArrayCaches_filled empty, fun ptr => ?_, fun ptr => Iff.rfl,
      readable⟩
    simp only [Cached]
    rw [if_neg empty]
    rfl

theorem getArrayCaches_unreadable {caches : ArrayCaches} (unreadable : ¬ cache.Readable caches) :
    Exists fun error : SlabException => Exists fun after : ArrayCaches =>
      cache.getArrayCaches.run caches = .error error after := by
  simp only [Readable] at unreadable
  rw [Classical.not_imp] at unreadable
  rcases getArrayCaches_empty cache unreadable.1 with ⟨after, _, ran⟩
  cases failed : failure cache.cachedReads with
  | none => exact False.elim (unreadable.2 failed)
  | some error =>
      rw [failed] at ran
      exact ⟨error, after, ran⟩

end KmemCacheSLAB

namespace SlabSLAB

variable {cache : KmemCacheSLAB} {slab : SlabSLAB cache}

/-! ## The allocated objects -/

theorem populateFree_populated {state : SlabState} (populated : state.freePopulated = true) :
    slab.populateFree.run state = .ok ⟨⟩ state := by
  simp only [populateFree]
  rw [EStateM.run_bind, EStateM.run_get]
  simp only [if_pos populated]
  rfl

/-- A free object is not in use, whatever the array caches are. -/
theorem objInUse_free {state : SlabState} (populated : state.freePopulated = true) {obj : Nat}
    (free : obj ∈ state.free) : (slab.objInUse obj).run state = .ok (false, none) state := by
  simp only [objInUse]
  rw [EStateM.run_bind, populateFree_populated populated]
  simp only [EStateM.run_bind, EStateM.run_get, if_pos free]
  rfl

/-- Whether another object is in use is known from the array caches. -/
theorem objInUse_notFree {state : SlabState} (populated : state.freePopulated = true) {obj : Nat}
    (notFree : obj ∉ state.free) (readable : cache.Readable state.caches) :
    Exists fun inUse : Bool => Exists fun detail : Option String =>
      Exists fun caches : ArrayCaches =>
        (slab.objInUse obj).run state = .ok (inUse, detail) { state with caches := caches } ∧
          (inUse = true <-> ¬ cache.Cached state.caches obj) ∧
          (forall ptr, cache.Cached caches ptr <-> cache.Cached state.caches ptr) ∧
          cache.Readable caches := by
  rcases KmemCacheSLAB.getArrayCaches_readable readable with ⟨table, after, ran, keys, same, still⟩
  have fetches : (onCaches cache.getArrayCaches).run state =
      .ok table { state with caches := after } := by
    simp only [onCaches, EStateM.run] at ran ⊢
    rw [ran]
  cases known : table.lookup obj with
  | some entry =>
      have answered : (slab.objInUse obj).run state =
          .ok (false, some (cacheText entry)) { state with caches := after } := by
        simp only [objInUse]
        rw [EStateM.run_bind, populateFree_populated populated]
        simp only [EStateM.run_bind, EStateM.run_get, if_neg notFree, fetches, known]
        rfl
      refine ⟨false, some (cacheText entry), after, answered, ?_, same, still⟩
      rcases List.lookup_eq_some_iff.mp known with ⟨before, rest, shape, _⟩
      have cached : cache.Cached state.caches obj := by
        rw [← keys, shape]
        simp only [List.map_append, List.map_cons, List.mem_append, List.mem_cons, true_or, or_true]
      exact iff_of_false Bool.false_ne_true fun notCached => notCached cached
  | none =>
      have answered : (slab.objInUse obj).run state =
          .ok (true, none) { state with caches := after } := by
        simp only [objInUse]
        rw [EStateM.run_bind, populateFree_populated populated]
        simp only [EStateM.run_bind, EStateM.run_get, if_neg notFree, fetches, known]
        rfl
      refine ⟨true, none, after, answered, iff_of_true rfl fun cached => ?_, same, still⟩
      rcases List.mem_map.mp ((keys obj).mpr cached) with ⟨entry, inside, here⟩
      have differs := List.lookup_eq_none_iff.mp known entry inside
      rw [here, bne_self_eq_false] at differs
      cases differs

theorem objInUse_unreadable {state : SlabState} (populated : state.freePopulated = true) {obj : Nat}
    (notFree : obj ∉ state.free) (unreadable : ¬ cache.Readable state.caches) :
    Exists fun error : SlabException => Exists fun after : SlabState =>
      (slab.objInUse obj).run state = .error error after := by
  rcases KmemCacheSLAB.getArrayCaches_unreadable unreadable with ⟨error, caches, ran⟩
  have fails : (onCaches cache.getArrayCaches).run state =
      .error error { state with caches := caches } := by
    simp only [onCaches, EStateM.run] at ran ⊢
    rw [ran]
  refine ⟨error, { state with caches := caches }, ?_⟩
  simp only [objInUse]
  rw [EStateM.run_bind, populateFree_populated populated]
  simp only [EStateM.run_bind, EStateM.run_get, if_neg notFree, fails]

/-- The loop goes through all objects if the array caches can be read. -/
theorem allocatedAmong_readable {objs : List Nat} {state : SlabState}
    (populated : state.freePopulated = true) (readable : cache.Readable state.caches) :
    (slab.allocatedAmong objs state).1.ending = .completed ∧
      (slab.allocatedAmong objs state).1.events.Sublist objs ∧
      forall obj, obj ∈ (slab.allocatedAmong objs state).1.events <->
        obj ∈ objs ∧ obj ∉ state.free ∧ ¬ cache.Cached state.caches obj := by
  induction objs generalizing state with
  | nil => exact ⟨rfl, .slnil, fun obj => by simp [allocatedAmong]⟩
  | cons first rest inductionHypothesis =>
      by_cases free : first ∈ state.free
      · have later := inductionHypothesis populated readable
        rw [allocatedAmong, objInUse_free populated free]
        refine ⟨later.1, later.2.1.cons first, fun obj => ?_⟩
        change obj ∈ (slab.allocatedAmong rest state).1.events <-> _
        rw [later.2.2, List.mem_cons]
        constructor
        · rintro ⟨member, others⟩
          exact ⟨.inr member, others⟩
        · rintro ⟨rfl | member, notFree, notCached⟩
          · exact False.elim (notFree free)
          · exact ⟨member, notFree, notCached⟩
      · rcases objInUse_notFree populated free readable with
          ⟨inUse, detail, caches, ran, used, same, still⟩
        have later := @inductionHypothesis { state with caches := caches } populated still
        simp only [same] at later
        rw [allocatedAmong, ran]
        cases inUse with
        | true =>
            have notCached := used.mp rfl
            refine ⟨later.1, later.2.1.cons_cons first, fun obj => ?_⟩
            change obj ∈ first :: (slab.allocatedAmong rest _).1.events <-> _
            rw [List.mem_cons, later.2.2, List.mem_cons]
            constructor
            · rintro (rfl | ⟨member, others⟩)
              · exact ⟨.inl rfl, free, notCached⟩
              · exact ⟨.inr member, others⟩
            · rintro ⟨here | member, others⟩
              · exact .inl here
              · exact .inr ⟨member, others⟩
        | false =>
            have cached : cache.Cached state.caches first := by
              by_contra notCached
              exact Bool.false_ne_true (used.mpr notCached)
            refine ⟨later.1, later.2.1.cons first, fun obj => ?_⟩
            change obj ∈ (slab.allocatedAmong rest _).1.events <-> _
            rw [later.2.2, List.mem_cons]
            constructor
            · rintro ⟨member, others⟩
              exact ⟨.inr member, others⟩
            · rintro ⟨rfl | member, notFree, notCached⟩
              · exact False.elim (notCached cached)
              · exact ⟨member, notFree, notCached⟩

/-- Objects that are all free are passed over without a look at the array caches. -/
theorem allocatedAmong_free {objs : List Nat} {state : SlabState}
    (populated : state.freePopulated = true) (free : forall obj, obj ∈ objs -> obj ∈ state.free) :
    (slab.allocatedAmong objs state).1 = ⟨[], .completed⟩ := by
  induction objs with
  | nil => rfl
  | cons first rest inductionHypothesis =>
      rw [allocatedAmong, objInUse_free populated (free first List.mem_cons_self)]
      change (slab.allocatedAmong rest state).1.after [] = _
      rw [inductionHypothesis fun obj member => free obj (List.mem_cons_of_mem _ member)]
      rfl

/-- If the array caches cannot be read, the first object that is not free raises, and
nothing has been yielded before it. -/
theorem allocatedAmong_unreadable {objs : List Nat} {state : SlabState}
    (populated : state.freePopulated = true) (unreadable : ¬ cache.Readable state.caches)
    (notFree : Exists fun obj : Nat => obj ∈ objs ∧ obj ∉ state.free) :
    Exists fun error : SlabException => (slab.allocatedAmong objs state).1 = ⟨[], .raised error⟩ := by
  induction objs with
  | nil =>
      rcases notFree with ⟨obj, member, _⟩
      cases member
  | cons first rest inductionHypothesis =>
      rw [allocatedAmong]
      by_cases free : first ∈ state.free
      · rcases notFree with ⟨obj, member, outside⟩
        rcases List.mem_cons.mp member with rfl | later
        · exact False.elim (outside free)
        · rcases inductionHypothesis ⟨obj, later, outside⟩ with ⟨error, raised⟩
          refine ⟨error, ?_⟩
          rw [objInUse_free populated free]
          change (slab.allocatedAmong rest state).1.after [] = _
          rw [raised]
          rfl
      · rcases objInUse_unreadable populated free unreadable with ⟨error, after, ran⟩
        refine ⟨error, ?_⟩
        rw [ran]

/-- What `get_allocated_objects` yields from a state: all objects that are neither free nor
cached, in increasing order, if the array caches can be read or no object makes it look at
them.  Otherwise it raises, and has yielded nothing. -/
structure YieldsAllocated (slab : SlabSLAB cache) (state : SlabState) : Prop where
  completes : (slab.getAllocatedObjects state).1.ending = .completed <->
    cache.Readable state.caches ∨ forall obj, obj ∈ slab.getObjects -> obj ∈ state.free
  increasing : (slab.getAllocatedObjects state).1.events.Pairwise (· < ·)
  exactly : (slab.getAllocatedObjects state).1.ending = .completed ->
    forall obj, obj ∈ (slab.getAllocatedObjects state).1.events <->
      obj ∈ slab.getObjects ∧ obj ∉ state.free ∧ ¬ cache.Cached state.caches obj
  raises : ¬ cache.Readable state.caches ->
    (Exists fun obj : Nat => obj ∈ slab.getObjects ∧ obj ∉ state.free) ->
      Exists fun error : SlabException => (slab.getAllocatedObjects state).1 = ⟨[], .raised error⟩

theorem getObjects_increasing (sized : 0 < cache.bufferSize) :
    slab.getObjects.Pairwise (· < ·) := by
  simp only [getObjects]
  rw [List.pairwise_map]
  apply List.pairwise_lt_range.imp
  intro first second before
  simp only [objectAt]
  exact Nat.add_lt_add_left (Nat.mul_lt_mul_of_pos_right before sized) _

theorem yieldsAllocated (sized : 0 < cache.bufferSize) {state : SlabState}
    (populated : state.freePopulated = true) : slab.YieldsAllocated state := by
  by_cases readable : cache.Readable state.caches
  · have run := @allocatedAmong_readable cache slab slab.getObjects state populated readable
    exact ⟨iff_of_true run.1 (.inl readable), (getObjects_increasing sized).sublist run.2.1,
      fun _ => run.2.2, fun unreadable => False.elim (unreadable readable)⟩
  · by_cases allFree : forall obj, obj ∈ slab.getObjects -> obj ∈ state.free
    · have run : (slab.getAllocatedObjects state).1 = ⟨[], .completed⟩ :=
        allocatedAmong_free populated allFree
      refine ⟨iff_of_true (by rw [run]) (.inr allFree), ?_, fun _ obj => ?_, ?_⟩
      · rw [run]
        exact .nil
      · rw [run]
        apply iff_of_false List.not_mem_nil
        rintro ⟨member, notFree, _⟩
        exact notFree (allFree obj member)
      · rintro _ ⟨obj, member, notFree⟩
        exact False.elim (notFree (allFree obj member))
    · have raises := @allocatedAmong_unreadable cache slab slab.getObjects state populated readable
      have notFree : Exists fun obj : Nat => obj ∈ slab.getObjects ∧ obj ∉ state.free := by
        simpa only [not_forall, exists_prop] using allFree
      rcases raises notFree with ⟨error, run⟩
      change (slab.getAllocatedObjects state).1 = _ at run
      refine ⟨?_, ?_, fun completed => ?_, fun _ _ => ⟨error, run⟩⟩
      · rw [run]
        apply iff_of_false
        · intro impossible
          cases impossible
        · rintro (other | other)
          · exact readable other
          · exact allFree other
      · rw [run]
        exact .nil
      · rw [run] at completed
        cases completed

/-- After `populate_free` has returned, it is known that it has. -/
theorem populateFree_marks {before after : SlabState}
    (ran : slab.populateFree.run before = .ok ⟨⟩ after) : after.freePopulated = true := by
  simp only [populateFree] at ran
  rw [EStateM.run_bind, EStateM.run_get] at ran
  by_cases populated : before.freePopulated = true
  · simp only [if_pos populated] at ran
    cases ran
    exact populated
  · simp only [if_neg populated] at ran
    rcases run_bind_ok ran with ⟨_, middle, _, marked⟩
    cases marked
    rfl

theorem mem_getObjects_of_within {free : Finset Nat} (within : slab.Within free) {obj : Nat}
    (member : obj ∈ free) : obj ∈ slab.getObjects := by
  rcases Finset.mem_image.mp (within member) with ⟨idx, bounded, rfl⟩
  exact List.mem_map.mpr ⟨idx, List.mem_range.mpr (Finset.mem_range.mp bounded), rfl⟩

/-- `populate_free` ends with free objects that are objects of the slab, whatever memory
holds, and the allocated objects are the others that are not cached. -/
theorem populateFree_allocated (cache : KmemCacheSLAB) (sized : 0 < cache.bufferSize)
    (slab : SlabSLAB cache) (before : SlabState) (within : slab.Within before.free) :
    (forall fuel f, cache.objsPerSlab < fuel ->
      (slab.populateFromBufctl fuel f).run before =
        (slab.populateFromBufctl (cache.objsPerSlab + 1) f).run before) ∧
    (forall obj, obj ∈ (finalState (slab.populateFree.run before)).free -> obj ∈ slab.getObjects) ∧
    (finalState (slab.populateFree.run before)).free.card ≤ cache.objsPerSlab ∧
    forall after, slab.populateFree.run before = .ok ⟨⟩ after -> slab.YieldsAllocated after := by
  have stays : slab.Within (finalState (slab.populateFree.run before)).free :=
    populateFree_within before within
  refine ⟨fun fuel f enough => ?_, fun obj member => mem_getObjects_of_within stays member,
    within_card stays, fun after ran => yieldsAllocated sized (populateFree_marks ran)⟩
  exact populateFromBufctl_ends within (by omega) enough

/-- A chain that comes back to its first index. -/
def cycleStruct : Nat -> SlabStruct := fun _ =>
  { inuse := .ok 1, sMem := .ok 0xffff880000001000, free := .ok 1, index := fun _ => .ok 1 }

theorem populateFree_allocated_cycle :
    (finalState ((smallSlab ownPages cycleStruct 32 3).populateFree.run {})).free.card ≤ 3 ∧
      (Exists fun after : SlabState =>
        (smallSlab ownPages cycleStruct 32 3).populateFree.run {} = .ok ⟨⟩ after ∧
          (smallSlab ownPages cycleStruct 32 3).YieldsAllocated after) := by
  have all := populateFree_allocated _ (by decide) (smallSlab ownPages cycleStruct 32 3) {}
    (Finset.empty_subset _)
  exact ⟨all.2.2.1, _, rfl, all.2.2.2 _ rfl⟩

/-- Two objects without a size are yielded at the same address.  And where the page of a
cached pointer is not available, nothing is yielded at first; but the pointers that were
recorded before it stay, and then an object is yielded although it is in an array cache. -/
theorem getAllocatedObjects_departs :
    (Exists fun after : SlabState =>
      (smallSlab ownPages fullStruct 0 2).populateFree.run {} = .ok ⟨⟩ after ∧
        ((smallSlab ownPages fullStruct 0 2).getAllocatedObjects after).1 =
          ⟨[0xffff880000001000, 0xffff880000001000], .completed⟩ ∧
        ¬ ((smallSlab ownPages fullStruct 0 2).getAllocatedObjects after).1.events.Pairwise
          (· < ·)) ∧
    Exists fun after : SlabState => Exists fun later : SlabState =>
      KmemCacheSLAB.abortedSlab.populateFree.run {} = .ok ⟨⟩ after ∧
        KmemCacheSLAB.abortedSlab.getAllocatedObjects after =
          (⟨[], .raised (.gdb .notAvailable)⟩, later) ∧
        (KmemCacheSLAB.abortedSlab.getAllocatedObjects later).1 =
          ⟨[0xffff880000002000], .completed⟩ ∧
        KmemCacheSLAB.abortedCache.CachedPointer 0xffff880000002000 := by
  constructor
  · refine ⟨_, rfl, rfl, ?_⟩
    change ¬ List.Pairwise (· < ·) [0xffff880000001000, 0xffff880000001000]
    decide
  · exact ⟨_, _, rfl, rfl, rfl, .percpu (List.mem_singleton.mpr rfl) rfl ⟨2, 1, rfl, by decide, rfl⟩⟩

end SlabSLAB

end Slab
end CrashPython

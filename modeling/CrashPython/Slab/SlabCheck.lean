import CrashPython.Slab.SlabSLAB
import Mathlib.Data.Finset.Image

namespace CrashPython
namespace Slab
namespace SlabSLAB

open Library Types

/-!
# What `SlabSLAB.check` accepts

`Sound` lists the conditions under which a slab is in order.  The theorem at the
end says that `check` leaves the error flag down on exactly these slabs.

Two conditions are what the code can see rather than what one would first
write.  The code compares objects and not indices, so that two indices of one
object, which only objects without a size have, count as a duplicate.  And it
starts with no page in the form of a page at address zero, so that the objects
at the start of the slab whose head page is there are not looked at.
-/

variable {cache : KmemCacheSLAB} (slab : SlabSLAB cache)

/-! ## The free objects -/

/-- The chain of indices from `f` on, up to its end. -/
inductive BufctlChain : Nat -> List Nat -> Prop where
  | done : BufctlChain bufctlEnd []
  | step {f next : Nat} {rest : List Nat} (inside : f ≠ bufctlEnd)
      (found : (cache.slabs slab.address).index f = .ok next) (onward : BufctlChain next rest) :
      BufctlChain f (f :: rest)

/-- The indices of the free objects, as memory lists them. -/
def FreeIndices (indices : List Nat) : Prop :=
  match slab.form with
  | .pageSlab _ =>
      List.Forall₂ (fun i idx => (cache.slabs slab.address).index i = .ok idx)
        (List.range' slab.nrInuse (cache.objsPerSlab - slab.nrInuse)) indices
  | .structSlab => Exists fun f : Nat =>
      (cache.slabs slab.address).free = .ok f ∧ slab.BufctlChain f indices

/-- The indices are those of distinct objects of the slab. -/
structure Proper (indices : List Nat) : Prop where
  bounded : forall idx, idx ∈ indices -> idx < cache.objsPerSlab
  distinct : (indices.map slab.objectAt).Nodup

/-- Enter objects one by one, until an index is not in order. -/
def collect : Finset Nat -> List Nat -> Option (Finset Nat)
  | free, [] => some free
  | free, idx :: rest =>
      if idx < cache.objsPerSlab ∧ slab.objectAt idx ∉ free then
        collect (insert (slab.objectAt idx) free) rest
      else none

variable {slab}

theorem proper_cons {idx : Nat} {rest : List Nat} :
    slab.Proper (idx :: rest) <-> idx < cache.objsPerSlab ∧ slab.Proper rest ∧
      slab.objectAt idx ∉ rest.map slab.objectAt := by
  constructor
  · intro proper
    have parts := List.nodup_cons.mp proper.distinct
    exact ⟨proper.bounded idx List.mem_cons_self,
      ⟨fun other member => proper.bounded other (List.mem_cons_of_mem _ member), parts.2⟩, parts.1⟩
  · rintro ⟨below, proper, absent⟩
    refine ⟨?_, List.nodup_cons.mpr ⟨absent, proper.distinct⟩⟩
    intro other member
    rcases List.mem_cons.mp member with rfl | later
    · exact below
    · exact proper.bounded other later

/-- The objects are entered exactly when they are distinct objects of the slab
that were not there before. -/
theorem collect_eq_some {indices : List Nat} {free result : Finset Nat} :
    slab.collect free indices = some result <->
      slab.Proper indices ∧ (forall idx, idx ∈ indices -> slab.objectAt idx ∉ free) ∧
        result = free ∪ (indices.map slab.objectAt).toFinset := by
  induction indices generalizing free with
  | nil =>
      have proper : slab.Proper [] := ⟨fun idx member => (List.not_mem_nil member).elim, List.nodup_nil⟩
      simp only [collect, Option.some.injEq, proper, List.not_mem_nil, false_implies, implies_true,
        List.map_nil, List.toFinset_nil, Finset.union_empty, true_and, eq_comm]
  | cons idx rest inductionHypothesis =>
      simp only [collect]
      by_cases fits : idx < cache.objsPerSlab ∧ slab.objectAt idx ∉ free
      · rw [if_pos fits, inductionHypothesis, proper_cons]
        have union : insert (slab.objectAt idx) free ∪ (rest.map slab.objectAt).toFinset =
            free ∪ ((idx :: rest).map slab.objectAt).toFinset := by
          rw [List.map_cons, List.toFinset_cons, Finset.insert_union, Finset.union_insert]
        rw [union]
        constructor
        · rintro ⟨proper, fresh, same⟩
          refine ⟨⟨fits.1, proper, ?_⟩, ?_, same⟩
          · intro member
            rcases List.mem_map.mp member with ⟨other, inside, equal⟩
            exact fresh other inside (equal ▸ Finset.mem_insert_self _ _)
          · intro other member
            rcases List.mem_cons.mp member with rfl | later
            · exact fits.2
            · exact fun inFree => fresh other later (Finset.mem_insert_of_mem inFree)
        · rintro ⟨⟨_, proper, absent⟩, fresh, same⟩
          refine ⟨proper, ?_, same⟩
          intro other member inserted
          rcases Finset.mem_insert.mp inserted with equal | inFree
          · exact absent (equal ▸ List.mem_map_of_mem member)
          · exact fresh other (List.mem_cons_of_mem _ member) inFree
      · rw [if_neg fits]
        constructor
        · intro impossible
          cases impossible
        · rintro ⟨proper, fresh, _⟩
          exact False.elim (fits ⟨(proper_cons.mp proper).1, fresh idx List.mem_cons_self⟩)

/-! ## Reading the free objects -/

/-- A good index enters its object and nothing else. -/
theorem addFreeObjByIdx_fits {idx : Nat} {state : SlabState}
    (fits : idx < cache.objsPerSlab ∧ slab.objectAt idx ∉ state.free) :
    (slab.addFreeObjByIdx idx).run state =
      .ok true { state with free := insert (slab.objectAt idx) state.free } := by
  simp only [addFreeObjByIdx]
  rw [if_neg (Nat.not_le.mpr fits.1), EStateM.run_bind, EStateM.run_get]
  simp only [if_neg fits.2]
  rfl

/-- A bad index raises the flag. -/
theorem addFreeObjByIdx_misfits {idx : Nat} {state : SlabState}
    (misfits : ¬ (idx < cache.objsPerSlab ∧ slab.objectAt idx ∉ state.free)) :
    Exists fun report : SlabReport =>
      (slab.addFreeObjByIdx idx).run state = .ok false (state.prErr report) := by
  simp only [addFreeObjByIdx]
  by_cases below : idx < cache.objsPerSlab
  · rw [if_neg (Nat.not_le.mpr below), EStateM.run_bind, EStateM.run_get]
    have present : slab.objectAt idx ∈ state.free := by
      by_contra absent
      exact misfits ⟨below, absent⟩
    simp only [if_pos present]
    exact ⟨_, rfl⟩
  · rw [if_pos (Nat.not_lt.mp below)]
    exact ⟨_, rfl⟩

/-- The outcome of reading a list of indices: the flag tells whether all of them
were in order, and if so, the objects are those of the list. -/
structure Populated (indices : List Nat) (before after : SlabState) : Prop where
  flag : after.error = false <->
    before.error = false ∧ (slab.collect before.free indices).isSome
  free : forall result, slab.collect before.free indices = some result -> after.free = result

theorem collect_cons_fits {idx : Nat} {rest : List Nat} {free : Finset Nat}
    (fits : idx < cache.objsPerSlab ∧ slab.objectAt idx ∉ free) :
    slab.collect free (idx :: rest) = slab.collect (insert (slab.objectAt idx) free) rest := by
  rw [collect, if_pos fits]

theorem collect_cons_misfits {idx : Nat} {rest : List Nat} {free : Finset Nat}
    (misfits : ¬ (idx < cache.objsPerSlab ∧ slab.objectAt idx ∉ free)) :
    slab.collect free (idx :: rest) = none := by
  rw [collect, if_neg misfits]

/-- One position of the array of the page form. -/
def readPosition (slab : SlabSLAB cache) (i : Nat) : SlabM PUnit := do
  let idx <- raising (fetched ((cache.slabs slab.address).index i))
  let _ <- slab.addFreeObjByIdx idx

/-- A position either enters its object or raises the flag. -/
theorem readPosition_run {i : Nat} {before after : SlabState}
    (ran : (slab.readPosition i).run before = .ok ⟨⟩ after) :
    Exists fun idx : Nat => (cache.slabs slab.address).index i = .ok idx ∧
      ((idx < cache.objsPerSlab ∧ slab.objectAt idx ∉ before.free ∧
          after = { before with free := insert (slab.objectAt idx) before.free }) ∨
        (¬ (idx < cache.objsPerSlab ∧ slab.objectAt idx ∉ before.free) ∧ after.error = true)) := by
  simp only [readPosition] at ran
  cases found : (cache.slabs slab.address).index i with
  | error error =>
      rw [found] at ran
      cases ran
  | ok idx =>
      rw [found] at ran
      refine ⟨idx, rfl, ?_⟩
      change ((slab.addFreeObjByIdx idx >>= fun _ => pure ⟨⟩ : SlabM PUnit)).run before = _ at ran
      rw [EStateM.run_bind] at ran
      by_cases fits : idx < cache.objsPerSlab ∧ slab.objectAt idx ∉ before.free
      · rw [addFreeObjByIdx_fits fits] at ran
        cases ran
        exact Or.inl ⟨fits.1, fits.2, rfl⟩
      · rcases addFreeObjByIdx_misfits fits with ⟨report, added⟩
        rw [added] at ran
        cases ran
        exact Or.inr ⟨fits, rfl⟩

/-- The loop of the page form reads all positions, whatever it finds there. -/
theorem populateFromPage_loop {positions : List Nat} {before after : SlabState}
    (ran : (positions.forM slab.readPosition).run before = .ok ⟨⟩ after) :
    Exists fun indices : List Nat =>
      List.Forall₂ (fun i idx => (cache.slabs slab.address).index i = .ok idx) positions indices ∧
        slab.Populated indices before after := by
  induction positions generalizing before with
  | nil =>
      cases ran
      exact ⟨[], .nil, ⟨by simp only [collect, Option.isSome_some, and_true],
        fun result same => Option.some.inj same⟩⟩
  | cons position rest inductionHypothesis =>
      change (slab.readPosition position >>= fun _ => rest.forM slab.readPosition).run before = _
        at ran
      rw [EStateM.run_bind] at ran
      cases first : (slab.readPosition position).run before with
      | error error state =>
          rw [first] at ran
          cases ran
      | ok value middle =>
          rw [first] at ran
          rcases inductionHypothesis ran with ⟨indices, reads, populated⟩
          rcases readPosition_run first with ⟨idx, found, entered | ⟨misfits, flagged⟩⟩
          · rcases entered with ⟨below, fresh, shape⟩
            refine ⟨idx :: indices, .cons found reads, ?_⟩
            have step : slab.collect before.free (idx :: indices) = _ :=
              collect_cons_fits ⟨below, fresh⟩
            rw [shape] at populated
            exact ⟨step ▸ populated.flag, step ▸ populated.free⟩
          · refine ⟨idx :: indices, .cons found reads, ?_⟩
            have stuck : slab.collect before.free (idx :: indices) = none :=
              collect_cons_misfits misfits
            refine ⟨?_, fun result same => ?_⟩
            · rw [populated.flag, flagged, stuck]
              simp only [Bool.true_eq_false, false_and, Option.isSome_none, Bool.false_eq_true,
                and_false]
            · rw [stuck] at same
              cases same

/-- The free objects are objects of the slab. -/
def Within (slab : SlabSLAB cache) (free : Finset Nat) : Prop :=
  free ⊆ (Finset.range cache.objsPerSlab).image slab.objectAt

theorem within_card {free : Finset Nat} (within : slab.Within free) :
    free.card ≤ cache.objsPerSlab := by
  calc
    free.card ≤ ((Finset.range cache.objsPerSlab).image slab.objectAt).card :=
      Finset.card_le_card within
    _ ≤ (Finset.range cache.objsPerSlab).card := Finset.card_image_le
    _ = cache.objsPerSlab := Finset.card_range _

theorem within_insert {free : Finset Nat} {idx : Nat} (within : slab.Within free)
    (below : idx < cache.objsPerSlab) : slab.Within (insert (slab.objectAt idx) free) := by
  apply Finset.insert_subset _ within
  exact Finset.mem_image_of_mem slab.objectAt (Finset.mem_range.mpr below)

/-- The loop of the other form either reaches the end of a chain that is in
order, or raises the flag and there is no such chain.  The fuel lasts, because
every round but the last one adds an object. -/
theorem populateFromBufctl_run {fuel f : Nat} {before after : SlabState}
    (within : slab.Within before.free) (enough : cache.objsPerSlab < fuel + before.free.card)
    (ran : (slab.populateFromBufctl fuel f).run before = .ok ⟨⟩ after) :
    (Exists fun indices : List Nat => slab.BufctlChain f indices ∧
        slab.collect before.free indices = some after.free ∧ after.error = before.error) ∨
      (after.error = true ∧ forall indices, slab.BufctlChain f indices ->
        slab.collect before.free indices = none) := by
  induction fuel generalizing f before with
  | zero =>
      rw [Nat.zero_add] at enough
      exact False.elim (Nat.not_lt.mpr (within_card within) enough)
  | succ fuel inductionHypothesis =>
      simp only [populateFromBufctl] at ran
      by_cases ended : f = bufctlEnd
      · rw [if_pos ended] at ran
        cases ran
        exact Or.inl ⟨[], ended ▸ .done, rfl, rfl⟩
      · rw [if_neg ended, EStateM.run_bind] at ran
        by_cases fits : f < cache.objsPerSlab ∧ slab.objectAt f ∉ before.free
        · rw [addFreeObjByIdx_fits fits] at ran
          cases found : (cache.slabs slab.address).index f with
          | error error =>
              simp only [found] at ran
              cases ran
          | ok next =>
              simp only [found, if_true] at ran
              have grown : cache.objsPerSlab <
                  fuel + (insert (slab.objectAt f) before.free).card := by
                rw [Finset.card_insert_of_notMem fits.2]
                omega
              rcases inductionHypothesis (within_insert within fits.1) grown ran with
                ⟨indices, chain, collected, kept⟩ | ⟨flagged, stuck⟩
              · refine Or.inl ⟨f :: indices, .step ended found chain, ?_, kept⟩
                rw [collect_cons_fits fits]
                exact collected
              · refine Or.inr ⟨flagged, fun indices chain => ?_⟩
                cases chain with
                | done => exact False.elim (ended rfl)
                | step inside link onward =>
                    rw [found] at link
                    cases link
                    rw [collect_cons_fits fits]
                    exact stuck _ onward
        · rcases addFreeObjByIdx_misfits fits with ⟨report, added⟩
          rw [added] at ran
          cases ran
          refine Or.inr ⟨rfl, fun indices chain => ?_⟩
          cases chain with
          | done => exact False.elim (ended rfl)
          | step inside link onward => exact collect_cons_misfits fits

theorem bufctlChain_unique {f : Nat} {first second : List Nat} (one : slab.BufctlChain f first)
    (other : slab.BufctlChain f second) : first = second := by
  induction one generalizing second with
  | done =>
      cases other with
      | done => rfl
      | step inside _ _ => exact False.elim (inside rfl)
  | step inside found onward inductionHypothesis =>
      cases other with
      | done => exact False.elim (inside rfl)
      | step _ link further =>
          rw [found] at link
          cases link
          rw [inductionHypothesis further]

theorem readings_unique {read : Nat -> Except GdbError Nat} {positions first second : List Nat}
    (one : List.Forall₂ (fun i idx => read i = .ok idx) positions first)
    (other : List.Forall₂ (fun i idx => read i = .ok idx) positions second) : first = second := by
  induction one generalizing second with
  | nil =>
      cases other
      rfl
  | cons found _ inductionHypothesis =>
      cases other with
      | cons link further =>
          rw [found] at link
          cases link
          rw [inductionHypothesis further]

theorem freeIndices_unique {first second : List Nat} (one : slab.FreeIndices first)
    (other : slab.FreeIndices second) : first = second := by
  simp only [FreeIndices] at one other
  cases shape : slab.form with
  | pageSlab page =>
      rw [shape] at one other
      exact readings_unique one other
  | structSlab =>
      rw [shape] at one other
      rcases one with ⟨f, read, chain⟩
      rcases other with ⟨g, again, further⟩
      rw [read] at again
      cases again
      exact bufctlChain_unique chain further

/-- The state of a slab that was just made. -/
structure Fresh (state : SlabState) : Prop where
  free : state.free = ∅
  freePopulated : state.freePopulated = false
  error : state.error = false

theorem collect_fresh {indices : List Nat} :
    slab.collect ∅ indices = some (indices.map slab.objectAt).toFinset <-> slab.Proper indices := by
  rw [collect_eq_some]
  constructor
  · exact And.left
  · intro proper
    exact ⟨proper, fun idx _ => Finset.notMem_empty _, (Finset.empty_union _).symm⟩

theorem collect_fresh_isSome {indices : List Nat} :
    (slab.collect ∅ indices).isSome <-> slab.Proper indices := by
  constructor
  · intro isSome
    rcases Option.isSome_iff_exists.mp isSome with ⟨result, found⟩
    exact (collect_eq_some.mp found).1
  · intro proper
    rw [collect_fresh.mpr proper]
    rfl

/-- Reading the free objects of a slab that was just made: the flag stays down
exactly when the indices in memory are those of distinct objects of the slab,
and these objects are then the free ones. -/
theorem doPopulateFree_run {before after : SlabState} (fresh : Fresh before)
    (ran : slab.doPopulateFree.run before = .ok ⟨⟩ after) :
    (after.error = false <-> Exists fun indices : List Nat =>
        slab.FreeIndices indices ∧ slab.Proper indices) ∧
      forall indices, slab.FreeIndices indices -> slab.Proper indices ->
        after.free = (indices.map slab.objectAt).toFinset := by
  have unique := @freeIndices_unique cache slab
  simp only [doPopulateFree] at ran
  simp only [FreeIndices] at unique ⊢
  cases shape : slab.form with
  | pageSlab page =>
      rw [shape] at ran unique
      rcases populateFromPage_loop ran with ⟨indices, reads, populated⟩
      have flag := populated.flag
      have free := populated.free
      rw [fresh.free] at flag free
      rw [fresh.error, collect_fresh_isSome] at flag
      refine ⟨⟨fun quiet => ⟨indices, reads, (flag.mp quiet).2⟩, ?_⟩, ?_⟩
      · rintro ⟨others, again, proper⟩
        rw [← unique reads again] at proper
        exact flag.mpr ⟨rfl, proper⟩
      · intro others again proper
        rw [← unique reads again] at proper ⊢
        exact free _ (collect_fresh.mpr proper)
  | structSlab =>
      rw [shape] at ran unique
      cases read : (cache.slabs slab.address).free with
      | error error =>
          simp only [read] at ran
          cases ran
      | ok f =>
          simp only [read] at ran unique ⊢
          have within : slab.Within before.free := by
            rw [fresh.free]
            exact Finset.empty_subset _
          have enough : cache.objsPerSlab < cache.objsPerSlab + 1 + before.free.card := by omega
          rcases populateFromBufctl_run within enough ran with
            ⟨indices, chain, collected, kept⟩ | ⟨flagged, stuck⟩
          · rw [fresh.free] at collected
            rw [kept, fresh.error]
            have entered := collect_eq_some.mp collected
            refine ⟨⟨fun _ => ⟨indices, ⟨f, rfl, chain⟩, entered.1⟩, fun _ => rfl⟩, ?_⟩
            intro others again proper
            rw [← unique ⟨f, rfl, chain⟩ again, entered.2.2, Finset.empty_union]
          · rw [fresh.free] at stuck
            have none : forall indices, slab.BufctlChain f indices -> ¬ slab.Proper indices := by
              intro indices chain proper
              have found := collect_fresh.mpr proper
              rw [stuck indices chain] at found
              cases found
            refine ⟨⟨fun quiet => ?_, ?_⟩, ?_⟩
            · rw [flagged] at quiet
              cases quiet
            · rintro ⟨indices, ⟨g, same, chain⟩, proper⟩
              cases same
              exact False.elim (none indices chain proper)
            · rintro indices ⟨g, same, chain⟩ proper
              cases same
              exact False.elim (none indices chain proper)

/-! ## The management of the slab -/

/-- The flag is not lowered, and the free objects and the array caches stay as
they are. -/
structure Further (before after : SlabState) : Prop where
  kept : (after.free, after.caches) = (before.free, before.caches)
  raised : before.error = true -> after.error = true

theorem further_accumulates : Accumulates Further where
  refl := fun _ => ⟨rfl, id⟩
  trans := fun first second => ⟨second.kept.trans first.kept, second.raised ∘ first.raised⟩

theorem further_prErr (report : SlabReport) (state : SlabState) : Further state (state.prErr report) :=
  ⟨rfl, fun _ => rfl⟩

theorem checkOffSlabCache_further (found : String) : Evolves Further (checkOffSlabCache found) := by
  apply Evolves.looks
  intro state
  cases state.offSlabCache with
  | none =>
      by_cases known : found ∈ offSlabCaches
      · simp only [if_pos known]
        exact Evolves.update fun _ => ⟨rfl, id⟩
      · simp only [if_neg known]
        exact Evolves.update (further_prErr _)
  | some known =>
      by_cases same : found = known
      · simp only [if_pos same]
        exact Evolves.returns further_accumulates _
      · simp only [if_neg same]
        exact Evolves.update (further_prErr _)

theorem checkOffSlabObject_further (structSlab : Sigma SlabSLAB) :
    Evolves Further (slab.checkOffSlabObject structSlab) := by
  apply Evolves.reads further_accumulates
  rintro ⟨contains, obj, text⟩
  cases contains with
  | false => exact Evolves.update (further_prErr _)
  | true =>
      by_cases same : obj = slab.address
      · simp only [if_true, if_pos same]
        exact Evolves.returns further_accumulates _
      · simp only [if_true, if_neg same]
        exact Evolves.update (further_prErr _)

theorem checkManagement_further : Evolves Further slab.checkManagement := by
  simp only [checkManagement]
  cases cache.offSlab with
  | false => exact Evolves.returns further_accumulates _
  | true =>
      cases slab.form with
      | pageSlab page => exact Evolves.returns further_accumulates _
      | structSlab =>
          apply Evolves.reads further_accumulates
          intro found
          cases found with
          | none => exact Evolves.update (further_prErr _)
          | some structSlab =>
              apply Evolves.andThen further_accumulates (checkOffSlabCache_further _)
              intro _
              exact checkOffSlabObject_further structSlab

/-- Nothing is checked if the management lies on the slab. -/
theorem checkManagement_onSlab (onSlab : cache.offSlab = false) (state : SlabState) :
    slab.checkManagement.run state = .ok ⟨⟩ state := by
  simp only [checkManagement]
  rw [onSlab]
  rfl

/-! ## The checks -/

/-- The part of a checker of slabs that relies on the set of free objects and
on the array caches. -/
abbrev ChecksSlab {Value : Type} (fixed : Finset Nat × ArrayCaches) (sound : Prop)
    (part : SlabM Value) : Prop :=
  Checks SlabState.error (fun state => (state.free, state.caches)) fixed sound part

section Parts

variable {fixed : Finset Nat × ArrayCaches}

/-- A report raises the flag and leaves the free objects alone. -/
theorem test_prErr {violated : Prop} [Decidable violated] (report : SlabReport) :
    ChecksSlab fixed (¬ violated)
      (if violated then modify (SlabState.prErr report) else pure ⟨⟩ : SlabM PUnit) :=
  Checks.test (fun _ => rfl) fun _ => rfl

theorem prErr_checks (report : SlabReport) :
    ChecksSlab fixed False (modify (SlabState.prErr report) : SlabM PUnit) :=
  Checks.raise (fun _ => rfl) fun _ => rfl

theorem checkCounts_checks (numFree : Nat) :
    ChecksSlab fixed (slab.nrInuse + numFree = cache.objsPerSlab) (slab.checkCounts numFree) := by
  apply Checks.congr (test_prErr _)
  exact not_not

theorem checkPlacement_checks (slabtype : SlabType) (numFree : Nat) :
    ChecksSlab fixed (¬ slabtype.Misfits cache.objsPerSlab numFree)
      (slab.checkPlacement slabtype numFree) :=
  Checks.test (fun _ => rfl) fun _ => rfl

theorem checkOwnPage_checks (nid : Nat) :
    ChecksSlab fixed (forall page, slab.form = .pageSlab page -> page.getNid cache.pageClass = nid)
      (slab.checkOwnPage nid) := by
  simp only [checkOwnPage]
  cases slab.form with
  | structSlab =>
      apply (Checks.returns PUnit.unit).congr
      constructor
      · intro _ page impossible
        cases impossible
      · intro _
        trivial
  | pageSlab page =>
      apply (test_prErr _).congr
      rw [not_not]
      constructor
      · rintro same other equal
        cases equal
        exact same.symm
      · intro all
        exact (all page rfl).symm

theorem checkCached_checks (table : List (Nat × ArrayCacheEntry)) (obj : Nat) :
    ChecksSlab fixed (¬ (obj ∈ fixed.1 ∧ obj ∈ table.map Prod.fst)) (checkCached table obj) := by
  apply Checks.looks
  intro state here
  rw [← here]
  exact test_prErr _

/-- The page of an object is on the node, is a slab page, and belongs to the
cache and, in the struct form, to the slab. -/
structure PageInOrder (slab : SlabSLAB cache) (nid : Nat) (page : Page cache.pages) : Prop where
  onNode : page.getNid cache.pageClass = nid
  isSlab : page.isSlab cache.pageClass = true
  ofCache : page.getSlabCache cache.pageClass = .ok cache.address
  ofSlab : slab.form = .structSlab -> page.getSlabPage cache.pageClass = .ok slab.address

theorem pageInOrder_of_address {nid : Nat} {page other : Page cache.pages}
    (same : page.address = other.address) (inOrder : slab.PageInOrder nid page) :
    slab.PageInOrder nid other := by
  have views := Page.view_eq_of_address cache.pageClass same
  simp only [Page.view, Page.View.mk.injEq] at views
  rcases views with ⟨nids, flags, caches, slabs⟩
  exact ⟨nids ▸ inOrder.onNode, flags ▸ inOrder.isSlab, caches ▸ inOrder.ofCache,
    fun shape => slabs ▸ inOrder.ofSlab shape⟩

/-- A value that was fetched is the one it should be. -/
theorem fetched_checks {read : Except GdbError Nat} {expected : Nat} {report : Nat -> SlabReport}
    {rest : SlabM PUnit} {sound : Prop} (continues : ChecksSlab fixed sound rest) :
    ChecksSlab fixed (read = .ok expected ∧ sound) (do
      let found <- raising (fetched read)
      (if found ≠ expected then modify (SlabState.prErr (report found)) else pure ⟨⟩)
      rest) := by
  apply Checks.reads
  intro found success
  rw [fetched_eq_ok success, Except.ok.injEq]
  apply Checks.andThen ((test_prErr _).congr not_not)
  intro _
  exact continues

theorem checkSlabPointer_checks (obj : Nat) (page : Page cache.pages) :
    ChecksSlab fixed
      (slab.form = .structSlab -> page.getSlabPage cache.pageClass = .ok slab.address)
      (slab.checkSlabPointer obj page) := by
  simp only [checkSlabPointer]
  cases slab.form with
  | pageSlab own =>
      apply (Checks.returns PUnit.unit).congr
      constructor
      · intro _ impossible
        cases impossible
      · intro _
        trivial
  | structSlab =>
      apply Checks.reads
      intro found success
      apply (test_prErr _).congr
      rw [fetched_eq_ok success, Except.ok.injEq, not_not]
      exact ⟨fun same _ => same, fun all => all rfl⟩

theorem checkPage_checks (nid obj : Nat) (page : Page cache.pages) :
    ChecksSlab fixed (slab.PageInOrder nid page) (slab.checkPage nid obj page) := by
  have parts : ChecksSlab fixed (page.getNid cache.pageClass = nid ∧
      page.isSlab cache.pageClass = true ∧ page.getSlabCache cache.pageClass = .ok cache.address ∧
        (slab.form = .structSlab -> page.getSlabPage cache.pageClass = .ok slab.address))
      (slab.checkPage nid obj page) := by
    apply Checks.andThen ((test_prErr _).congr not_not)
    intro _
    apply Checks.andThen ((test_prErr _).congr (iff_of_eq (Bool.not_eq_false _)))
    intro _
    exact fetched_checks (checkSlabPointer_checks obj page)
  apply parts.congr
  exact ⟨fun all => ⟨all.1, all.2.1, all.2.2.1, all.2.2.2⟩,
    fun inOrder => ⟨inOrder.onNode, inOrder.isSlab, inOrder.ofCache, inOrder.ofSlab⟩⟩

/-- What the loop over the objects tests, with the page it has just seen. -/
def InOrderFrom (slab : SlabSLAB cache) (nid : Nat) (free : Finset Nat)
    (table : List (Nat × ArrayCacheEntry)) : Nat -> List Nat -> Prop
  | _, [] => True
  | lastPageAddr, obj :: rest =>
      ¬ (obj ∈ free ∧ obj ∈ table.map Prod.fst) ∧
        match Page.headOfAddr cache.pageClass cache.pages obj with
        | .error _ => False
        | .ok page =>
            if page.address = lastPageAddr then InOrderFrom slab nid free table lastPageAddr rest
            else slab.PageInOrder nid page ∧ InOrderFrom slab nid free table page.address rest

theorem checkObjects_checks (table : List (Nat × ArrayCacheEntry)) (nid lastPageAddr : Nat)
    (objs : List Nat) :
    ChecksSlab fixed (slab.InOrderFrom nid fixed.1 table lastPageAddr objs)
      (slab.checkObjects table nid lastPageAddr objs) := by
  induction objs generalizing lastPageAddr with
  | nil => exact Checks.returns _
  | cons obj rest inductionHypothesis =>
      apply Checks.andThen (checkCached_checks table obj)
      intro _
      cases Page.headOfAddr cache.pageClass cache.pages obj with
      | error error =>
          cases error with
          | notAvailable =>
              have flagged := Checks.andThen (prErr_checks (.noPage obj))
                fun _ => inductionHypothesis lastPageAddr
              apply flagged.congr
              exact iff_of_eq (false_and _)
          | memoryError =>
              intro before value after _ ran
              cases ran
      | ok page =>
          change ChecksSlab fixed (ite _ _ _) (ite _ _ _)
          by_cases same : page.address = lastPageAddr
          · rw [if_pos same, if_pos same]
            exact inductionHypothesis lastPageAddr
          · rw [if_neg same, if_neg same]
            apply Checks.andThen (checkPage_checks nid obj page)
            intro _
            exact inductionHypothesis page.address

end Parts

/-! ## The objects and their pages -/

/-- The head page of an object is the one at address zero. -/
def headAtZero (cache : KmemCacheSLAB) (obj : Nat) : Bool :=
  match Page.headOfAddr cache.pageClass cache.pages obj with
  | .error _ => false
  | .ok page => page.address == 0

/-- The object has a head page, and it is in order. -/
def ObjectInOrder (slab : SlabSLAB cache) (nid obj : Nat) : Prop :=
  Exists fun page : Page cache.pages =>
    Page.headOfAddr cache.pageClass cache.pages obj = .ok page ∧ slab.PageInOrder nid page

section Objects

variable {nid : Nat} {free : Finset Nat} {table : List (Nat × ArrayCacheEntry)}

/-- Once a page in order has been seen, passing over it changes nothing: the
loop tests all objects. -/
theorem inOrderFrom_of_seen {seenPage : Page cache.pages} (inOrder : slab.PageInOrder nid seenPage)
    {objs : List Nat} :
    slab.InOrderFrom nid free table seenPage.address objs <-> forall obj, obj ∈ objs ->
      ¬ (obj ∈ free ∧ obj ∈ table.map Prod.fst) ∧ slab.ObjectInOrder nid obj := by
  induction objs generalizing seenPage with
  | nil => simp only [InOrderFrom, List.not_mem_nil, false_implies, implies_true]
  | cons obj rest inductionHypothesis =>
      rw [List.forall_mem_cons, InOrderFrom, and_assoc]
      apply and_congr_right
      intro _
      simp only [ObjectInOrder]
      cases Page.headOfAddr cache.pageClass cache.pages obj with
      | error error => simp only [reduceCtorEq, false_and, exists_false]
      | ok page =>
          by_cases same : page.address = seenPage.address
          · have pageInOrder := pageInOrder_of_address same.symm inOrder
            simp only [if_pos same, inductionHypothesis inOrder, ObjectInOrder, Except.ok.injEq,
              exists_eq_left', pageInOrder, true_and]
          · simp only [if_neg same, Except.ok.injEq, exists_eq_left']
            apply and_congr_right
            intro pageInOrder
            exact inductionHypothesis pageInOrder

/-- From the start, the objects whose head page is at address zero are passed
over until another page appears. -/
theorem inOrderFrom_zero {objs : List Nat} :
    slab.InOrderFrom nid free table 0 objs <->
      (forall obj, obj ∈ objs -> ¬ (obj ∈ free ∧ obj ∈ table.map Prod.fst) ∧
        Exists fun page => Page.headOfAddr cache.pageClass cache.pages obj = .ok page) ∧
      forall obj, obj ∈ objs.dropWhile (headAtZero cache) -> slab.ObjectInOrder nid obj := by
  induction objs with
  | nil => simp only [InOrderFrom, List.not_mem_nil, false_implies, implies_true, List.dropWhile_nil,
      and_true]
  | cons obj rest inductionHypothesis =>
      rw [List.forall_mem_cons, InOrderFrom]
      cases head : Page.headOfAddr cache.pageClass cache.pages obj with
      | error error => simp only [reduceCtorEq, exists_false, and_false, false_and]
      | ok page =>
          by_cases zero : page.address = 0
          · have passed : headAtZero cache obj = true := by
              simp only [headAtZero, head, zero, BEq.rfl]
            simp only [if_pos zero, inductionHypothesis, List.dropWhile_cons, passed, if_true,
              Except.ok.injEq, exists_eq', and_true, and_assoc]
          · have kept : headAtZero cache obj = false := by
              simp only [headAtZero, head, beq_eq_false_iff_ne, ne_eq, zero, not_false_eq_true]
            simp only [if_neg zero, List.dropWhile_cons, kept, Bool.false_eq_true, if_false,
              Except.ok.injEq, exists_eq', and_true]
            rw [List.forall_mem_cons, and_assoc]
            apply and_congr_right
            intro _
            constructor
            · rintro ⟨inOrder, further⟩
              have all := (inOrderFrom_of_seen inOrder).mp further
              refine ⟨fun other member => ⟨(all other member).1, ?_⟩, ⟨page, head, inOrder⟩,
                fun other member => (all other member).2⟩
              rcases (all other member).2 with ⟨found, located, _⟩
              exact ⟨found, located⟩
            · rintro ⟨available, ⟨found, located, inOrder⟩, all⟩
              rw [head] at located
              cases located
              refine ⟨inOrder, (inOrderFrom_of_seen inOrder).mpr fun other member => ?_⟩
              exact ⟨(available other member).1, all other member⟩

end Objects


/-! ## Slabs in order -/

/-- The set of the objects with these indices. -/
def freeObjects (slab : SlabSLAB cache) (indices : List Nat) : Finset Nat :=
  (indices.map slab.objectAt).toFinset

/-- A slab in order, given the indices of its free objects: they are those of
distinct objects, they add up with the counter, they suit the list the slab is
on, none of them is cached as well, and the pages are those of the slab.  The
pages of the objects at the start are exempt as long as they are at address
zero. -/
structure Sound (slab : SlabSLAB cache) (slabtype : SlabType) (nid : Nat)
    (table : List (Nat × ArrayCacheEntry)) (indices : List Nat) : Prop where
  listed : slab.FreeIndices indices
  proper : slab.Proper indices
  adds : slab.nrInuse + (slab.freeObjects indices).card = cache.objsPerSlab
  placed : ¬ slabtype.Misfits cache.objsPerSlab (slab.freeObjects indices).card
  ownPage : forall page, slab.form = .pageSlab page -> page.getNid cache.pageClass = nid
  uncached : forall obj, obj ∈ slab.getObjects ->
    ¬ (obj ∈ slab.freeObjects indices ∧ obj ∈ table.map Prod.fst)
  available : forall obj, obj ∈ slab.getObjects -> Exists fun page =>
    Page.headOfAddr cache.pageClass cache.pages obj = .ok page
  pages : forall obj, obj ∈ slab.getObjects.dropWhile (headAtZero cache) ->
    slab.ObjectInOrder nid obj

/-- What the checks after the free objects have been read stand for. -/
structure Passes (slab : SlabSLAB cache) (slabtype : SlabType) (nid : Nat) (free : Finset Nat)
    (table : List (Nat × ArrayCacheEntry)) : Prop where
  adds : slab.nrInuse + free.card = cache.objsPerSlab
  placed : ¬ slabtype.Misfits cache.objsPerSlab free.card
  ownPage : forall page, slab.form = .pageSlab page -> page.getNid cache.pageClass = nid
  objects : slab.InOrderFrom nid free table 0 slab.getObjects

/-- After the free objects have been read and the management has been checked,
`check` leaves the flag down exactly when it was down and all conditions hold. -/
theorem check_run {slabtype : SlabType} {nid count : Nat} {before after : SlabState}
    (ran : (slab.check slabtype nid).run before = .ok count after) :
    Exists fun populated : SlabState => Exists fun managed : SlabState =>
      slab.populateFree.run before = .ok ⟨⟩ populated ∧
        slab.checkManagement.run populated = .ok ⟨⟩ managed ∧ count = populated.free.card ∧
          (after.error = false <-> managed.error = false ∧
            slab.Passes slabtype nid populated.free after.caches.table) := by
  rcases run_bind_ok ran with ⟨_, populated, populates, ran⟩
  rcases run_bind_ok ran with ⟨_, _, looked, ran⟩
  cases looked
  rcases run_bind_ok ran with ⟨_, managed, ranManagement, ran⟩
  rcases run_bind_ok ran with ⟨_, counted, ranCounts, ran⟩
  rcases run_bind_ok ran with ⟨_, placed, ranPlacement, ran⟩
  rcases run_bind_ok ran with ⟨_, owned, ranOwnPage, ran⟩
  rcases run_bind_ok ran with ⟨table, filled, ranCaches, ran⟩
  rcases run_bind_ok ran with ⟨_, final, ranObjects, returned⟩
  cases returned
  refine ⟨populated, managed, populates, ranManagement, rfl, ?_⟩
  have keptManaged := (checkManagement_further.ok ranManagement).kept
  rcases checkCounts_checks _ _ _ _ keptManaged ranCounts with ⟨keptCounted, flagCounted⟩
  rcases checkPlacement_checks _ _ _ _ _ keptCounted ranPlacement with ⟨keptPlaced, flagPlaced⟩
  rcases checkOwnPage_checks _ _ _ _ keptPlaced ranOwnPage with ⟨keptOwned, flagOwned⟩
  rcases onCaches_eq_ok ranCaches with ⟨caches, fetches, shape⟩
  have sameFree : owned.free = populated.free := congrArg Prod.fst keptOwned
  have keptFilled : (filled.free, filled.caches) = (populated.free, caches) := by
    rw [shape, ← sameFree]
  have flagFilled : filled.error = owned.error := by rw [shape]
  rcases checkObjects_checks table nid 0 _ _ _ _ keptFilled ranObjects with ⟨keptFinal, flagFinal⟩
  have sameCaches : after.caches = caches := congrArg Prod.snd keptFinal
  have sameTable : table = after.caches.table := by
    rw [KmemCacheSLAB.getArrayCaches_eq_ok fetches, sameCaches]
  rw [flagFinal, flagFilled, flagOwned, flagPlaced, flagCounted, ← sameTable]
  constructor
  · rintro ⟨⟨⟨⟨quiet, adds⟩, placed⟩, ownPage⟩, objects⟩
    exact ⟨quiet, adds, placed, ownPage, objects⟩
  · rintro ⟨quiet, passes⟩
    exact ⟨⟨⟨⟨quiet, passes.adds⟩, passes.placed⟩, passes.ownPage⟩, passes.objects⟩

theorem populateFree_fresh {before after : SlabState} (fresh : Fresh before)
    (ran : slab.populateFree.run before = .ok ⟨⟩ after) :
    Exists fun populated : SlabState => slab.doPopulateFree.run before = .ok ⟨⟩ populated ∧
      after = { populated with freePopulated := true } := by
  rcases run_bind_ok ran with ⟨_, _, looked, ran⟩
  cases looked
  rw [fresh.freePopulated] at ran
  rcases run_bind_ok ran with ⟨_, populated, populates, marked⟩
  cases marked
  exact ⟨populated, populates, rfl⟩

theorem passes_iff {slabtype : SlabType} {nid : Nat} {table : List (Nat × ArrayCacheEntry)}
    {indices : List Nat} (listed : slab.FreeIndices indices) (proper : slab.Proper indices) :
    slab.Passes slabtype nid (slab.freeObjects indices) table <->
      slab.Sound slabtype nid table indices := by
  constructor
  · intro passes
    have objects := inOrderFrom_zero.mp passes.objects
    exact ⟨listed, proper, passes.adds, passes.placed, passes.ownPage,
      fun obj member => (objects.1 obj member).1, fun obj member => (objects.1 obj member).2,
      objects.2⟩
  · intro sound
    refine ⟨sound.adds, sound.placed, sound.ownPage, inOrderFrom_zero.mpr ⟨?_, sound.pages⟩⟩
    intro obj member
    exact ⟨sound.uncached obj member, sound.available obj member⟩

/-- If `check` leaves the flag of a slab that was just made down, then its value
is the number of the free objects that memory lists, and it suits the list. -/
theorem check_count {slabtype : SlabType} {nid count : Nat} {before after : SlabState}
    (fresh : Fresh before) (ran : (slab.check slabtype nid).run before = .ok count after)
    (quiet : after.error = false) :
    ¬ slabtype.Misfits cache.objsPerSlab count ∧ Exists fun indices : List Nat =>
      slab.FreeIndices indices ∧ slab.Proper indices ∧ count = (slab.freeObjects indices).card := by
  rcases check_run ran with ⟨populated, managed, populates, manages, rfl, flag⟩
  have parts := flag.mp quiet
  have populatedQuiet : populated.error = false := by
    rw [← Bool.not_eq_true]
    intro flagged
    have still := (checkManagement_further.ok manages).raised flagged
    rw [parts.1] at still
    cases still
  refine ⟨parts.2.placed, ?_⟩
  rcases populateFree_fresh fresh populates with ⟨state, ranState, rfl⟩
  rcases doPopulateFree_run fresh ranState with ⟨quietIff, free⟩
  rcases quietIff.mp populatedQuiet with ⟨indices, listed, proper⟩
  exact ⟨indices, listed, proper, congrArg Finset.card (free indices listed proper)⟩

/-- If `check` returns on a slab that was just made, of a cache that keeps its
management on the slab, then the error flag is down exactly when the slab is in
order. -/
theorem check_error_iff (cache : KmemCacheSLAB) (onSlab : cache.offSlab = false)
    (slab : SlabSLAB cache) (slabtype : SlabType) (nid : Nat) (before : SlabState)
    (fresh : Fresh before) (count : Nat) (after : SlabState)
    (ran : (slab.check slabtype nid).run before = .ok count after) :
    after.error = false <-> Exists fun indices : List Nat =>
      slab.Sound slabtype nid after.caches.table indices := by
  rcases check_run ran with ⟨populated, managed, populates, manages, _, flag⟩
  rw [checkManagement_onSlab onSlab] at manages
  cases manages
  rcases populateFree_fresh fresh populates with ⟨state, ranState, rfl⟩
  rcases doPopulateFree_run fresh ranState with ⟨quietIff, free⟩
  rw [flag, quietIff]
  constructor
  · rintro ⟨⟨indices, listed, proper⟩, passes⟩
    refine ⟨indices, (passes_iff listed proper).mp ?_⟩
    rw [freeObjects, ← free indices listed proper]
    exact passes
  · rintro ⟨indices, sound⟩
    refine ⟨⟨indices, sound.listed, sound.proper⟩, ?_⟩
    rw [free indices sound.listed sound.proper]
    exact (passes_iff sound.listed sound.proper).mpr sound

/-- A cache of small objects with nothing in its array caches. -/
def smallCache (pages : PageMemory) (slabs : Nat -> SlabStruct) (bufferSize objsPerSlab : Nat) :
    KmemCacheSLAB where
  pageSlab := false
  pageClass := { pgSlab := 128 }
  pages := pages
  slabs := slabs
  cpusOnline := []
  nidsPossible := [0]
  numaNodeId := fun _ => .ok 0
  name := "size-32"
  address := 0xffff880000800000
  bufferSize := bufferSize
  objsPerSlab := objsPerSlab
  percpu := fun _ => .error .delayedAttribute
  nodelist := fun _ => .ok none

/-- The page of the objects of `smallSlab`, which belongs to it. -/
def ownPages : PageMemory := fun address =>
  if address = 0xffffea0000000040 then
    { flags := .ok 128, compoundHead := .ok 0, slabCache := .ok 0xffff880000800000,
      slabPage := .ok 0xffff880000700000 }
  else { flags := .error .memoryError }

/-- A slab of `smallCache` in the struct form, with one allocated object. -/
def smallSlab (pages : PageMemory) (slabs : Nat -> SlabStruct) (bufferSize objsPerSlab : Nat) :
    SlabSLAB (smallCache pages slabs bufferSize objsPerSlab) where
  address := 0xffff880000700000
  form := .structSlab
  nrInuse := 1
  sMem := 0xffff880000001000

/-- A slab without free objects. -/
def fullStruct : Nat -> SlabStruct := fun _ =>
  { inuse := .ok 1, sMem := .ok 0xffff880000001000, free := .ok bufctlEnd }

/-- The objects with the indices three and one are free. -/
def partialStruct : Nat -> SlabStruct := fun _ =>
  { inuse := .ok 2, sMem := .ok 0xffff880000001000, free := .ok 3,
    index := fun idx => if idx = 3 then .ok 1 else .ok bufctlEnd }

/-- The processor has the object with the index two in its array cache. -/
def partialCache : KmemCacheSLAB :=
  { smallCache ownPages partialStruct 32 4 with
    cpusOnline := [0]
    percpu := fun _ => .ok ⟨.ok 1, fun _ => .ok 0xffff880000001040⟩ }

/-- A slab of four objects, of which two are free. -/
def partialSlab : SlabSLAB partialCache where
  address := 0xffff880000700000
  form := .structSlab
  nrInuse := 2
  sMem := 0xffff880000001000

theorem check_error_iff_partialSlab :
    Exists fun after : SlabState =>
      (partialSlab.check .slabPartial 0).run {} = .ok 2 after ∧
        after.free = {0xffff880000001020, 0xffff880000001060} ∧
        after.caches.table = [(0xffff880000001040, ⟨.percpu, -1, 0⟩)] ∧
        Exists fun indices : List Nat =>
          partialSlab.Sound .slabPartial 0 after.caches.table indices :=
  ⟨_, rfl, rfl, rfl,
    (check_error_iff _ rfl partialSlab .slabPartial 0 {} ⟨rfl, rfl, rfl⟩ 2 _ rfl).mp rfl⟩

/-- The page of the objects is a tail page whose head is at address zero, and
the page there is not a slab page. -/
def zeroPages : PageMemory := fun address =>
  if address = 0xffffea0000000040 then { flags := .ok 0, compoundHead := .ok 1 }
  else if address = 0 then { flags := .ok 0, compoundHead := .ok 0, slabCache := .ok 0 }
  else { flags := .error .memoryError }

/-- A chain through the objects with the indices zero and one. -/
def chainStruct : Nat -> SlabStruct := fun _ =>
  { inuse := .ok 1, sMem := .ok 0xffff880000001000, free := .ok 0,
    index := fun idx => if idx = 0 then .ok 1 else .ok bufctlEnd }

/-- The flag stays down although the head page of the only object is not a slab
page, because that page is at address zero.  And it goes up although two
distinct indices are chained and everything else is in order, because objects
without a size have the same address. -/
theorem check_error_departs :
    (Exists fun after : SlabState =>
      ((smallSlab zeroPages fullStruct 32 1).check .slabFull 0).run {} = .ok 0 after ∧
        after.error = false ∧ Exists fun obj : Nat =>
          obj ∈ (smallSlab zeroPages fullStruct 32 1).getObjects ∧
            ¬ (smallSlab zeroPages fullStruct 32 1).ObjectInOrder 0 obj) ∧
    Exists fun after : SlabState =>
      ((smallSlab ownPages chainStruct 0 2).check .slabPartial 0).run {} = .ok 1 after ∧
        after.error = true ∧ (smallSlab ownPages chainStruct 0 2).FreeIndices [0, 1] ∧
          1 + after.free.card = 2 ∧ ¬ SlabType.slabPartial.Misfits 2 after.free.card ∧
            after.caches.table = [] ∧
              forall obj, obj ∈ (smallSlab ownPages chainStruct 0 2).getObjects ->
                (smallSlab ownPages chainStruct 0 2).ObjectInOrder 0 obj := by
  constructor
  · refine ⟨_, rfl, rfl, 0xffff880000001000, List.mem_singleton.mpr rfl, ?_⟩
    rintro ⟨page, located, inOrder⟩
    cases located
    cases inOrder.isSlab
  · refine ⟨_, rfl, rfl, ⟨0, rfl, ?_⟩, rfl, ?_, rfl, ?_⟩
    · exact .step (by decide) rfl (.step (by decide) rfl .done)
    · change ¬ (1 = 0 ∨ 1 = 2)
      decide
    · intro obj member
      have same : obj = 0xffff880000001000 := by
        rcases List.mem_map.mp member with ⟨idx, _, rfl⟩
        rfl
      subst same
      exact ⟨_, rfl, rfl, rfl, rfl, fun _ => rfl⟩

end SlabSLAB
end Slab
end CrashPython

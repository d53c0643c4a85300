import CrashPython.Slab.SlubReports

namespace CrashPython
namespace Slab

open Library Types

/-!
# The page freelist of a SLUB slab

`populate_free` follows the freelist of a slab for as many steps as the slab has objects.
The chain may be cyclic, too long, or shared with a processor, and none of this is looked
at on the way.  Afterwards the number of different objects is compared with the number that
the page gives, and that is enough: if the loop has ended, the error flag is down only if
the freelist is a chain with as many objects as it should have.  A pointer that cannot be
read raises before anything is compared.
-/

namespace SlabSLUB

variable (system : SlubSystem)

/-- The freelist of the slab is a chain of objects up to null, as many as there should be
and none of them on the chain of a processor. -/
structure ProperFreelist (slab : SlabSLUB) (world : SlubWorld) (objs : List Nat) : Prop where
  chain : Exists fun first : Nat => (system.pages slab.address).freelist = .ok first ∧
    NullTerminated (freePointer system slab.kmemCache) first objs
  count : (objs.length : Int) = slab.nrFree
  uncached : forall obj, obj ∈ objs ->
    obj ∉ (world.tables slab.kmemCache.address).cpuFreelists.map Prod.fst

/-- The attribute `error` after `populate_free`, however that ends. -/
def errorAfter (slab : SlabSLUB) (world : SlubWorld) : Bool :=
  match (populateFree system slab).run world with
  | .ok populated _ => populated.error
  | .error _ after => slab.error || decide (world.reports.length < after.reports.length)

variable {system}

/-- The flag goes up with every report. -/
theorem populateFree_error {slab populated : SlabSLUB} (fresh : slab.freePopulated = false)
    {before after : SlubWorld} (ran : (populateFree system slab).run before = .ok populated after) :
    populated.error = (slab.error || decide (before.reports.length < after.reports.length)) := by
  simp only [populateFree] at ran
  rw [fresh, if_neg Bool.false_ne_true] at ran
  rcases run_bind_ok ran with ⟨inner, middle, populates, finishes⟩
  cases finishes
  simp only [doPopulateFree] at populates
  rcases run_bind_ok populates with ⟨_, _, looked, populates⟩
  cases looked
  rcases run_bind_ok populates with ⟨_, _, _, populates⟩
  rcases run_bind_ok populates with ⟨_, _, _, populates⟩
  rcases run_bind_ok populates with ⟨_, _, _, populates⟩
  rcases run_bind_ok populates with ⟨_, _, looked, populates⟩
  cases looked
  cases populates
  rfl

theorem freeObjects_of_read {slab : SlabSLUB} {first : Nat}
    (read : (system.pages slab.address).freelist = .ok first) :
    freeObjects system slab = gathered ∅ (freelistWalk system slab) := by
  simp only [freeObjects, freelistWalk]
  rw [read]
  rfl

/-- The free objects are those on the walk, unless a pointer cannot be read. -/
theorem freeObjects_cases (slab : SlabSLUB) :
    (Exists fun first : Nat => (system.pages slab.address).freelist = .ok first ∧
      freelistWalk system slab =
        chainWalk (freePointer system slab.kmemCache) slab.nrObjects first ∧
      (forall error, (freelistWalk system slab).2 ≠ .failed error) ∧
      freeObjects system slab = .ok (freelistWalk system slab).1.toFinset) ∨
    Exists fun error : GdbError => freeObjects system slab = .error (.raised (.gdb error)) := by
  cases read : (system.pages slab.address).freelist with
  | error error =>
      refine .inr ⟨error, ?_⟩
      simp only [freeObjects]
      rw [read]
      rfl
  | ok first =>
      have walk : freelistWalk system slab =
          chainWalk (freePointer system slab.kmemCache) slab.nrObjects first := by
        simp only [freelistWalk]
        rw [read]
      have objects := freeObjects_of_read read
      simp only [gathered] at objects
      cases ended : (freelistWalk system slab).2 with
      | failed error =>
          rw [ended] at objects
          exact .inr ⟨error, objects⟩
      | null =>
          rw [ended, Finset.empty_union] at objects
          exact .inl ⟨first, rfl, walk, fun error => (by intro impossible; cases impossible), objects⟩
      | overflow =>
          rw [ended, Finset.empty_union] at objects
          exact .inl ⟨first, rfl, walk, fun error => (by intro impossible; cases impossible), objects⟩

/-- How `populate_free` ends for a new wrapper: it returns, or a pointer cannot be read. -/
theorem populateFree_outcome {slab : SlabSLUB} (fresh : slab.freePopulated = false)
    (world : SlubWorld) :
    (Exists fun populated : SlabSLUB => Exists fun after : SlubWorld =>
      (populateFree system slab).run world = .ok populated after ∧
        freeObjects system slab = .ok populated.free) ∨
      Exists fun error : GdbError => Exists fun after : SlubWorld =>
        (populateFree system slab).run world = .error (.raised (.gdb error)) after ∧
          freeObjects system slab = .error (.raised (.gdb error)) := by
  have run := populateFree_enacts system fresh world.tables world rfl
  rcases freeObjects_cases slab with ⟨_, _, _, _, found⟩ | ⟨error, found⟩
  · rw [found] at run ⊢
    rcases run with ⟨populated, after, ran, _, _, same, _⟩
    refine .inl ⟨populated, after, ran, ?_⟩
    rw [same]
  · rw [found] at run ⊢
    rcases run with ⟨after, ran, _⟩
    exact .inr ⟨error, after, ran, rfl⟩

theorem cachedReports_eq_nil {slab : SlabSLUB} {known : List (Nat × Nat)} {objs : List Nat} :
    cachedReports slab known objs = [] <->
      forall obj, obj ∈ objs -> obj ∉ known.map Prod.fst := by
  simp only [cachedReports]
  rw [List.filterMap_eq_nil_iff]
  constructor
  · intro none obj member recorded
    have some := (KmemCacheSLUB.isSome_lookup_iff known obj).mpr recorded
    rw [Option.map_eq_none_iff.mp (none obj member)] at some
    cases some
  · intro none obj member
    rw [Option.map_eq_none_iff]
    cases found : known.lookup obj with
    | none => rfl
    | some cpu =>
        exact False.elim (none obj member
          ((KmemCacheSLUB.isSome_lookup_iff known obj).mp (found ▸ rfl)))

/-- A freelist in order is followed to its end. -/
theorem ProperFreelist.walk {slab : SlabSLUB} {world : SlubWorld} {objs : List Nat}
    (proper : ProperFreelist system slab world objs) :
    freelistWalk system slab = (objs, .null) := by
  rcases proper.chain with ⟨first, read, linked⟩
  have count := proper.count
  simp only [nrFree] at count
  simp only [freelistWalk]
  rw [read]
  exact chainWalk_of_nullTerminated linked (by omega)

/-- Nothing is reported on a freelist exactly if it is in order. -/
theorem reports_eq_nil_iff {slab : SlabSLUB} {first : Nat}
    (read : (system.pages slab.address).freelist = .ok first)
    (walk : freelistWalk system slab =
      chainWalk (freePointer system slab.kmemCache) slab.nrObjects first)
    (readable : forall error, (freelistWalk system slab).2 ≠ .failed error) (world : SlubWorld) :
    cachedReports slab (world.tables slab.kmemCache.address).cpuFreelists
        (freelistWalk system slab).1 ++ lastingReports system slab = [] <->
      ProperFreelist system slab world (freelistWalk system slab).1 := by
  simp only [lastingReports, lengthReports, countReports]
  rw [List.append_eq_nil_iff, List.append_eq_nil_iff, cachedReports_eq_nil]
  constructor
  · rintro ⟨uncached, notLong, counted⟩
    have ended : (freelistWalk system slab).2 = .null := by
      cases ending : (freelistWalk system slab).2 with
      | null => rfl
      | overflow =>
          rw [ending, if_pos rfl] at notLong
          cases notLong
      | failed error => exact False.elim (readable error ending)
    have linked : NullTerminated (freePointer system slab.kmemCache) first
        (freelistWalk system slab).1 := by
      rw [walk] at ended ⊢
      exact nullTerminated_of_chainWalk ended
    refine ⟨⟨first, read, linked⟩, ?_, uncached⟩
    rw [← List.toFinset_card_of_nodup linked.nodup]
    by_contra different
    rw [if_pos different] at counted
    cases counted
  · intro proper
    rcases proper.chain with ⟨_, _, linked⟩
    have ended : (freelistWalk system slab).2 = .null := congrArg Prod.snd proper.walk
    have counted : ¬ ((freelistWalk system slab).1.toFinset.card : Int) ≠ slab.nrFree := by
      rw [List.toFinset_card_of_nodup linked.nodup]
      exact fun different => different proper.count
    rw [ended, if_neg counted]
    exact ⟨proper.uncached, rfl, rfl⟩

/-- A new wrapper is not in error. -/
theorem make_clean {page : Nat} {cache : KmemCacheSLUB} {slab : SlabSLUB}
    (made : make system page cache = .ok slab) : slab.error = false := by
  simp only [make] at made
  rcases except_bind_ok.mp made with ⟨_, _, made⟩
  rcases except_bind_ok.mp made with ⟨_, _, made⟩
  cases made
  rfl

/-- A wrapper whose free objects were read is in error if something was reported. -/
theorem populated_error_iff {slab populated : SlabSLUB} (fresh : slab.freePopulated = false)
    (clean : slab.error = false) {before after : SlubWorld}
    (ran : (populateFree system slab).run before = .ok populated after)
    (found : freeObjects system slab = .ok populated.free) :
    populated.error = false <->
      cachedReports slab (before.tables slab.kmemCache.address).cpuFreelists
        (freelistWalk system slab).1 ++ lastingReports system slab = [] := by
  have reported := populateFree_reports system fresh found before
  rw [ran] at reported
  have longer : after.reports.length = before.reports.length +
      (cachedReports slab (before.tables slab.kmemCache.address).cpuFreelists
        (freelistWalk system slab).1 ++ lastingReports system slab).length := by
    rw [← List.length_append, ← reported]
    rfl
  rw [populateFree_error fresh ran, clean, Bool.false_or, decide_eq_false_iff_not,
    ← List.length_eq_zero_iff]
  omega

/-- `populate_free` of a new wrapper enters no more objects than the slab has.  It returns
with the flag down exactly if the freelist is in order, and then the free objects are those
on it. -/
theorem populateFree_unflagged_iff (system : SlubSystem) (page : Nat) (cache : KmemCacheSLUB)
    (slab : SlabSLUB) (made : make system page cache = .ok slab) (world : SlubWorld) :
    ((Exists fun populated : SlabSLUB => Exists fun after : SlubWorld =>
        (populateFree system slab).run world = .ok populated after ∧
          populated.free = (freelistWalk system slab).1.toFinset) ∨
      Exists fun error : GdbError => Exists fun after : SlubWorld =>
        (populateFree system slab).run world = .error (.raised (.gdb error)) after) ∧
    (freelistWalk system slab).1.toFinset.card ≤ slab.nrObjects ∧
    ((Exists fun populated : SlabSLUB => Exists fun after : SlubWorld =>
        (populateFree system slab).run world = .ok populated after ∧ populated.error = false) <->
      Exists fun objs : List Nat => ProperFreelist system slab world objs) ∧
    forall objs, ProperFreelist system slab world objs -> objs.Nodup ∧
      Exists fun populated : SlabSLUB => Exists fun after : SlubWorld =>
        (populateFree system slab).run world = .ok populated after ∧ populated.error = false ∧
          populated.free = objs.toFinset := by
  have fresh : slab.freePopulated = false := (make_ok system made).2.2.2.2
  have clean := make_clean made
  have bounded : (freelistWalk system slab).1.toFinset.card ≤ slab.nrObjects := by
    apply Nat.le_trans (List.toFinset_card_le _)
    simp only [freelistWalk]
    split
    · exact chainWalk_length _ _
    · exact Nat.zero_le _
  have outcome := @populateFree_outcome system slab fresh world
  rcases freeObjects_cases slab with ⟨first, read, walk, readable, found⟩ | ⟨error, failed⟩
  · rcases outcome with ⟨populated, after, ran, free⟩ | ⟨_, _, _, failed⟩
    · have same : populated.free = (freelistWalk system slab).1.toFinset :=
        Except.ok.inj (free.symm.trans found)
      have inOrder := (populated_error_iff fresh clean ran free).trans
        (reports_eq_nil_iff read walk readable world)
      refine ⟨.inl ⟨populated, after, ran, same⟩, bounded, ⟨?_, ?_⟩, ?_⟩
      · rintro ⟨other, final, again, unflagged⟩
        cases ran.symm.trans again
        exact ⟨_, inOrder.mp unflagged⟩
      · rintro ⟨objs, proper⟩
        refine ⟨populated, after, ran, inOrder.mpr ?_⟩
        rw [proper.walk]
        exact proper
      · intro objs proper
        rcases proper.chain with ⟨_, _, linked⟩
        refine ⟨linked.nodup, populated, after, ran, inOrder.mpr ?_, ?_⟩
        · rw [proper.walk]
          exact proper
        · rw [same, proper.walk]
    · cases found.symm.trans failed
  · rcases outcome with ⟨_, _, _, free⟩ | ⟨other, after, ran, _⟩
    · cases failed.symm.trans free
    · have improper : forall objs, ¬ ProperFreelist system slab world objs := by
        intro objs proper
        rcases proper.chain with ⟨first, read, _⟩
        have objects := freeObjects_of_read read
        rw [proper.walk, failed] at objects
        cases objects
      refine ⟨.inr ⟨other, after, ran⟩, bounded, ⟨?_, ?_⟩, ?_⟩
      · rintro ⟨_, _, returned, _⟩
        cases ran.symm.trans returned
      · rintro ⟨objs, proper⟩
        exact False.elim (improper objs proper)
      · intro objs proper
        exact False.elim (improper objs proper)

/-- A slab of two objects, one of which is free. -/
def halfCache : KmemCacheSLUB where
  name := "half"
  address := 16
  size := 2048
  flags := 0
  fpOffset := 8
  redLeftPadField := 0
  inuse := 2048
  cpuSlab := fun _ => .error (.gdb .memoryError)
  nodelist := fun _ => .ok none

def halfSystem : SlubSystem :=
  .single halfCache [0]
    [(0xffffea0000000100, ⟨.ok 0xffff880000004800, .ok 2, .ok 1, .ok 0, .ok 16, .ok 0, .ok 0⟩)]
    [(0xffff880000004808, 0)]

def halfSlab : SlabSLUB :=
  ⟨0xffffea0000000100, halfCache, 2, 1, ∅, false, false⟩

theorem populateFree_unflagged_iff_half :
    Exists fun populated : SlabSLUB => Exists fun after : SlubWorld =>
      (populateFree halfSystem halfSlab).run { tables := fun _ => { cpuFreelistsSizes := [0] } } =
          .ok populated after ∧
        populated.error = false ∧ populated.free = {0xffff880000004800} := by
  have all := populateFree_unflagged_iff halfSystem 0xffffea0000000100 halfCache halfSlab rfl
    { tables := fun _ => { cpuFreelistsSizes := [0] } }
  have proper : ProperFreelist halfSystem halfSlab
      { tables := fun _ => { cpuFreelistsSizes := [0] } } [0xffff880000004800] :=
    ⟨⟨_, rfl, .node (by decide) rfl .done⟩, rfl, fun _ _ => List.not_mem_nil⟩
  exact (all.2.2.2 _ proper).2

/-- The memory of `halfSystem` without the free pointer of the object. -/
def brokenSystem : SlubSystem :=
  .single halfCache [0]
    [(0xffffea0000000100, ⟨.ok 0xffff880000004800, .ok 2, .ok 1, .ok 0, .ok 16, .ok 0, .ok 0⟩)] []

/-- Where a free pointer cannot be read, `populate_free` is left by the exception, and the
flag stays down although the freelist is no chain. -/
theorem populateFree_raises_unflagged :
    make brokenSystem 0xffffea0000000100 halfCache = .ok halfSlab ∧
      (Exists fun after : SlubWorld =>
        (populateFree brokenSystem halfSlab).run { tables := fun _ => { cpuFreelistsSizes := [0] } } =
          .error (.raised (.gdb .memoryError)) after) ∧
      errorAfter brokenSystem halfSlab { tables := fun _ => { cpuFreelistsSizes := [0] } } = false ∧
      ¬ Exists fun objs : List Nat => ProperFreelist brokenSystem halfSlab
        { tables := fun _ => { cpuFreelistsSizes := [0] } } objs := by
  refine ⟨rfl, ⟨_, rfl⟩, rfl, ?_⟩
  rintro ⟨objs, proper⟩
  rcases proper.chain with ⟨first, read, linked⟩
  cases read
  cases linked with
  | node _ impossible _ => cases impossible

end SlabSLUB
end Slab
end CrashPython

import CrashPython.Library.SlotRow
import CrashPython.Slab.SlabSLAB
import CrashPython.Slab.SlabSLUB

namespace CrashPython
namespace Slab

open Library Types

/-!
# Addresses and objects

A slab is a row of slots with an object in each of them.  `get_objects` lists the objects
by repeated addition, and `find_obj` goes the other way by division.  In a slab of the SLAB
allocator the object fills its slot.  In one of the SLUB allocator a red zone can come
before the object, and metadata behind it; `contains_obj` tells these parts apart.
-/

/-- The functions `find_obj` and `get_objects` of a slab fit together: the address of an
object is found from the addresses in its slot, and from no other. -/
structure FindsObjects {Address : Type} (find : Address -> Except SlabException (Option Address))
    (objects : List Address) (slot : Nat -> Address -> Prop) : Prop where
  outside : forall addr, find addr = .ok none <->
    forall idx, idx < objects.length -> ¬ slot idx addr
  inside : forall addr idx, slot idx addr -> idx < objects.length ->
    find addr = .ok objects[idx]?
  itself : forall obj, obj ∈ objects -> find obj = .ok (some obj)
  distinct : forall first second addr other, first < objects.length ->
    second < objects.length -> slot first addr -> slot second other -> find addr = find other ->
      first = second

namespace SlabSLAB

variable {cache : KmemCacheSLAB} (slab : SlabSLAB cache)

/-- The address lies in the slot of an object. -/
def Slot (idx addr : Nat) : Prop :=
  slab.objectAt idx ≤ addr ∧ addr < slab.objectAt idx + cache.bufferSize

/-- The slots of the slab. -/
def row (sized : 0 < cache.bufferSize) : SlotRow :=
  ⟨slab.sMem, cache.bufferSize, cache.objsPerSlab, sized⟩

variable {slab} (sized : 0 < cache.bufferSize)

theorem row_start (idx : Nat) : (slab.row sized).start idx = slab.objectAt idx := by
  simp only [SlotRow.start, row, objectAt]
  rw [Int.natCast_add, Int.natCast_mul]

theorem within_row {idx addr : Nat} : (slab.row sized).Within idx addr <-> slab.Slot idx addr := by
  simp only [SlotRow.Within, Slot]
  rw [row_start]
  change _ ∧ (addr : Int) < (slab.objectAt idx : Int) + (cache.bufferSize : Int) <-> _
  omega

/-- The division of `find_obj`. -/
theorem row_quotient {addr : Nat} (low : ¬ addr < slab.sMem) :
    ((addr : Int) - (slab.row sized).base) / ((slab.row sized).size : Int) =
      ((addr - slab.sMem) / cache.bufferSize : Nat) := by
  change ((addr : Int) - (slab.sMem : Int)) / (cache.bufferSize : Int) = _
  rw [Int.natCast_ediv, Int.natCast_sub (Nat.le_of_not_lt low)]

/-- `find_obj` finds the slot of an address. -/
theorem findObj_eq (addr : Nat) :
    slab.findObj addr = .ok (((slab.row sized).find addr).map slab.objectAt) := by
  have whole : ¬ cache.bufferSize = 0 := Nat.ne_of_gt sized
  simp only [findObj, SlotRow.find]
  by_cases low : addr < slab.sMem
  · rw [if_pos low, if_pos (show (addr : Int) < (slab.row sized).base from Int.ofNat_lt.mpr low)]
    rfl
  · have notLow : ¬ (addr : Int) < (slab.row sized).base := fun other => low (Int.ofNat_lt.mp other)
    rw [if_neg low, if_neg whole, if_neg notLow, row_quotient sized low, Int.toNat_natCast]
    by_cases high : cache.objsPerSlab ≤ (addr - slab.sMem) / cache.bufferSize
    · rw [if_pos (show ((slab.row sized).count : Int) ≤ _ from Int.ofNat_le.mpr high)]
      exact if_pos high
    · rw [if_neg fun other : ((slab.row sized).count : Int) ≤ _ => high (Int.ofNat_le.mp other)]
      exact if_neg high

theorem getObjects_length : slab.getObjects.length = cache.objsPerSlab := by
  simp only [getObjects]
  rw [List.length_map, List.length_range]

theorem getObjects_getElem? {idx : Nat} (bounded : idx < cache.objsPerSlab) :
    slab.getObjects[idx]? = some (slab.objectAt idx) := by
  simp only [getObjects]
  rw [List.getElem?_map, List.getElem?_range bounded]
  rfl

include sized in
/-- An address in the slot of an object leads to the object. -/
theorem findObj_of_slot {idx addr : Nat} (here : slab.Slot idx addr)
    (bounded : idx < cache.objsPerSlab) : slab.findObj addr = .ok (some (slab.objectAt idx)) := by
  have found : (slab.row sized).find addr = some idx :=
    SlotRow.find_eq_some.mpr ⟨bounded, (within_row sized).mpr here⟩
  rw [findObj_eq sized, found]
  rfl

include sized in
theorem findsObjects : FindsObjects slab.findObj slab.getObjects slab.Slot where
  outside := by
    intro addr
    rw [findObj_eq sized, Except.ok.injEq, Option.map_eq_none_iff, SlotRow.find_eq_none,
      getObjects_length]
    constructor
    · intro none idx bounded here
      exact none idx bounded ((within_row sized).mpr here)
    · intro none idx bounded here
      exact none idx bounded ((within_row sized).mp here)
  inside := by
    intro addr idx here bounded
    rw [getObjects_length] at bounded
    rw [getObjects_getElem? bounded]
    exact findObj_of_slot sized here bounded
  itself := by
    intro obj member
    rcases List.mem_map.mp member with ⟨idx, bounded, rfl⟩
    exact findObj_of_slot sized ⟨Nat.le_refl _, Nat.lt_add_of_pos_right sized⟩
      (List.mem_range.mp bounded)
  distinct := by
    intro first second addr other firstBounded secondBounded here there same
    rw [getObjects_length] at firstBounded secondBounded
    rw [findObj_of_slot sized here firstBounded, findObj_of_slot sized there secondBounded,
      Except.ok.injEq, Option.some.injEq] at same
    apply @SlotRow.start_injective (slab.row sized)
    rw [row_start, row_start, same]

end SlabSLAB

namespace SlabSLUB

variable (system : SlubSystem) (slab : SlabSLUB)

/-- `find_obj`.  The number of objects is read again. -/
def findObj (addr : Int) : Except SlabException (Option Int) :=
  if addr < slab.baseAddress system then .ok none
  else do
    let nrObjects <- fetched (system.pages slab.address).objects
    if slab.kmemCache.size = 0 then .error .zeroDivision
    else
      let idx := (addr - slab.baseAddress system) / slab.kmemCache.size
      if nrObjects ≤ idx then return none
      else return some (slab.baseAddress system + slab.kmemCache.redLeftPad + idx * slab.kmemCache.size)

/-- The descriptions that `contains_obj` gives of an address that is in no object. -/
inductive Surroundings where
  | outside
  | leftRedZone
  | metadata
deriving DecidableEq, Repr

/-- Their texts. -/
def Surroundings.text : Surroundings -> String
  | .outside => "address outside of valid object range"
  | .leftRedZone => "address inside left red zone padding"
  | .metadata => "address inside metadata behind object"

/-- `contains_obj`, which takes an object at address zero for none. -/
def containsObj (addr : Int) : Except SlabException (Bool × Int × Option Surroundings) := do
  let found <- slab.findObj system addr
  match found with
  | none => return (false, 0, some .outside)
  | some obj =>
      if obj = 0 then return (false, 0, some .outside)
      else if addr < obj then return (false, obj, some .leftRedZone)
      else if obj + slab.kmemCache.inuse < addr then return (false, obj, some .metadata)
      else return (true, obj, none)

/-- Where the object with some index starts. -/
def objectAt (idx : Nat) : Int :=
  slab.baseAddress system + slab.kmemCache.redLeftPad + idx * slab.kmemCache.size

/-- The address lies in the slot of an object. -/
def Slot (idx : Nat) (addr : Int) : Prop :=
  slab.baseAddress system + idx * slab.kmemCache.size ≤ addr ∧
    addr < slab.baseAddress system + idx * slab.kmemCache.size + slab.kmemCache.size

/-- The slots of the slab. -/
def row (sized : 0 < slab.kmemCache.size) : SlotRow :=
  ⟨slab.baseAddress system, slab.kmemCache.size, slab.nrObjects, sized⟩

section Geometry

variable {system slab}

theorem getObjects_length : (slab.getObjects system).length = slab.nrObjects := by
  simp only [getObjects]
  rw [List.length_map, List.length_range]

theorem getObjects_getElem? {idx : Nat} (bounded : idx < slab.nrObjects) :
    (slab.getObjects system)[idx]? = some (slab.objectAt system idx) := by
  simp only [getObjects]
  rw [List.getElem?_map, List.getElem?_range bounded]
  rfl

/-- The objects of a slab are those of its slots. -/
theorem mem_getObjects {obj : Int} : obj ∈ slab.getObjects system <->
    Exists fun idx : Nat => idx < slab.nrObjects ∧ slab.objectAt system idx = obj := by
  simp only [getObjects]
  rw [List.mem_map]
  constructor
  · rintro ⟨idx, member, same⟩
    exact ⟨idx, List.mem_range.mp member, same⟩
  · rintro ⟨idx, bounded, same⟩
    exact ⟨idx, List.mem_range.mpr bounded, same⟩

variable {page : Nat} {cache : KmemCacheSLUB} (made : make system page cache = .ok slab)
  (sized : 0 < slab.kmemCache.size)

include made in
/-- `find_obj` finds the slot of an address. -/
theorem findObj_eq (addr : Int) : slab.findObj system addr =
    .ok (((slab.row system sized).find addr).map (slab.objectAt system)) := by
  have read := make_ok system made
  have objects : (system.pages slab.address).objects = .ok slab.nrObjects := by
    rw [read.2.2.1]
    exact read.1
  have whole : ¬ slab.kmemCache.size = 0 := Nat.ne_of_gt sized
  simp only [findObj, SlotRow.find]
  rw [objects]
  by_cases low : addr < slab.baseAddress system
  · rw [if_pos low, if_pos (show addr < (slab.row system sized).base from low)]
    rfl
  · rw [if_neg low, if_neg fun other : addr < (slab.row system sized).base => low other]
    change (if slab.kmemCache.size = 0 then _ else _) = Except.ok (Option.map (slab.objectAt system)
      (if (slab.nrObjects : Int) ≤ (addr - slab.baseAddress system) / (slab.kmemCache.size : Int)
        then none
        else some ((addr - slab.baseAddress system) / (slab.kmemCache.size : Int)).toNat))
    rw [if_neg whole]
    have nonneg : 0 ≤ (addr - slab.baseAddress system) / (slab.kmemCache.size : Int) :=
      Int.ediv_nonneg (by omega) (Int.natCast_nonneg _)
    by_cases high : (slab.nrObjects : Int) ≤
        (addr - slab.baseAddress system) / (slab.kmemCache.size : Int)
    · rw [if_pos high, if_pos high]
      rfl
    · rw [if_neg high, if_neg high, Option.map_some]
      simp only [objectAt]
      rw [Int.toNat_of_nonneg nonneg]
      rfl

include made sized in
/-- An address in the slot of an object leads to the object. -/
theorem findObj_of_slot {idx : Nat} {addr : Int} (here : slab.Slot system idx addr)
    (bounded : idx < slab.nrObjects) :
    slab.findObj system addr = .ok (some (slab.objectAt system idx)) := by
  have found : (slab.row system sized).find addr = some idx :=
    SlotRow.find_eq_some.mpr ⟨bounded, here⟩
  rw [findObj_eq made sized, found]
  rfl

include made sized in
/-- An address in no slot leads to no object. -/
theorem findObj_eq_none (addr : Int) : slab.findObj system addr = .ok none <->
    forall idx, idx < slab.nrObjects -> ¬ slab.Slot system idx addr := by
  rw [findObj_eq made sized, Except.ok.injEq, Option.map_eq_none_iff, SlotRow.find_eq_none]
  rfl

/-- The address of an object lies in its slot, if the left red zone does not fill it. -/
theorem slot_objectAt (padded : slab.kmemCache.redLeftPad < slab.kmemCache.size) (idx : Nat) :
    slab.Slot system idx (slab.objectAt system idx) := by
  simp only [Slot, objectAt]
  omega

include made sized in
theorem findsObjects (padded : slab.kmemCache.redLeftPad < slab.kmemCache.size) :
    FindsObjects (slab.findObj system) (slab.getObjects system) (slab.Slot system) where
  outside := by
    intro addr
    rw [findObj_eq_none made sized, getObjects_length]
  inside := by
    intro addr idx here bounded
    rw [getObjects_length] at bounded
    rw [getObjects_getElem? bounded]
    exact findObj_of_slot made sized here bounded
  itself := by
    intro obj member
    rcases mem_getObjects.mp member with ⟨idx, bounded, rfl⟩
    exact findObj_of_slot made sized (slot_objectAt padded idx) bounded
  distinct := by
    intro first second addr other firstBounded secondBounded here there same
    rw [getObjects_length] at firstBounded secondBounded
    rw [findObj_of_slot made sized here firstBounded, findObj_of_slot made sized there secondBounded,
      Except.ok.injEq, Option.some.injEq] at same
    apply @SlotRow.start_injective (slab.row system sized)
    change slab.baseAddress system + first * slab.kmemCache.size =
      slab.baseAddress system + second * slab.kmemCache.size
    simp only [objectAt] at same
    omega

end Geometry

end SlabSLUB

/-- In both allocators `find_obj` is the way back from `get_objects`. -/
theorem findObj_finds_objects :
    (forall (cache : KmemCacheSLAB) (slab : SlabSLAB cache), 0 < cache.bufferSize ->
      FindsObjects slab.findObj slab.getObjects slab.Slot) ∧
    forall (system : SlubSystem) (page : Nat) (cache : KmemCacheSLUB) (slab : SlabSLUB),
      SlabSLUB.make system page cache = .ok slab -> 0 < slab.kmemCache.size ->
        slab.kmemCache.redLeftPad < slab.kmemCache.size ->
          FindsObjects (slab.findObj system) (slab.getObjects system) (slab.Slot system) :=
  ⟨fun _ _ sized => SlabSLAB.findsObjects sized,
    fun _ _ _ _ made sized padded => SlabSLUB.findsObjects made sized padded⟩

/-- A cache with a red zone before its objects, and metadata behind them. -/
def rowCache : KmemCacheSLUB where
  name := "row"
  address := 16
  size := 128
  flags := KmemCacheSLUB.slabRedZone
  fpOffset := 0
  redLeftPadField := 16
  inuse := 96
  cpuSlab := fun _ => .error (.gdb .memoryError)
  nodelist := fun _ => .ok none

def rowSystem : SlubSystem :=
  .single rowCache [0] [(0xffffea0000000100, ⟨.ok 0, .ok 32, .ok 32, .ok 0, .ok 16, .ok 0, .ok 0⟩)] []

def rowSlab : SlabSLUB :=
  ⟨0xffffea0000000100, rowCache, 32, 32, ∅, false, false⟩

theorem findObj_finds_objects_row :
    FindsObjects KmemCacheSLAB.abortedSlab.findObj KmemCacheSLAB.abortedSlab.getObjects
        KmemCacheSLAB.abortedSlab.Slot ∧
      FindsObjects (rowSlab.findObj rowSystem) (rowSlab.getObjects rowSystem)
        (rowSlab.Slot rowSystem) :=
  ⟨findObj_finds_objects.1 _ KmemCacheSLAB.abortedSlab (by decide),
    findObj_finds_objects.2 rowSystem 0xffffea0000000100 rowCache rowSlab rfl (by decide) (by decide)⟩

namespace SlabSLUB

variable (system : SlubSystem) (slab : SlabSLUB)

/-- The address lies in the slot around an object. -/
def Around (obj addr : Int) : Prop :=
  obj - slab.kmemCache.redLeftPad ≤ addr ∧
    addr < obj - slab.kmemCache.redLeftPad + slab.kmemCache.size

/-- The answer of `contains_obj` is what the slots say about the address. -/
structure ClassifiesBySlot (addr : Int) (answer : Bool × Int × Option Surroundings) : Prop where
  contained : forall obj, answer = (true, obj, none) <->
    obj ∈ slab.getObjects system ∧ obj ≤ addr ∧ addr < obj + slab.kmemCache.inuse
  leftRedZone : forall obj, answer = (false, obj, some .leftRedZone) <->
    obj ∈ slab.getObjects system ∧ obj - slab.kmemCache.redLeftPad ≤ addr ∧ addr < obj
  metadata : forall obj, answer = (false, obj, some .metadata) <->
    obj ∈ slab.getObjects system ∧ obj + slab.kmemCache.inuse ≤ addr ∧
      addr < obj - slab.kmemCache.redLeftPad + slab.kmemCache.size
  outside : answer = (false, 0, some .outside) <->
    forall obj, obj ∈ slab.getObjects system -> ¬ slab.Around obj addr

section Classification

variable {system slab} {page : Nat} {cache : KmemCacheSLUB}
  (made : make system page cache = .ok slab) (sized : 0 < slab.kmemCache.size)
  (fits : slab.kmemCache.redLeftPad + slab.kmemCache.inuse ≤ slab.kmemCache.size) {addr : Int}

theorem around_objectAt {idx : Nat} :
    slab.Around (slab.objectAt system idx) addr <-> slab.Slot system idx addr := by
  simp only [Around, Slot, objectAt]
  omega

include sized in
/-- The parts of a slot belong to the object of the slot and to no other. -/
theorem mem_region_iff {idx : Nat} (here : slab.Slot system idx addr)
    (bounded : idx < slab.nrObjects) (region : Int -> Prop)
    (inside : forall obj, region obj -> slab.Around obj addr) (obj : Int) :
    obj ∈ slab.getObjects system ∧ region obj <-> obj = slab.objectAt system idx ∧ region obj := by
  constructor
  · rintro ⟨member, part⟩
    rcases mem_getObjects.mp member with ⟨other, _, rfl⟩
    have there : (slab.row system sized).Within other addr := around_objectAt.mp (inside _ part)
    have same : other = idx := there.unique here
    exact ⟨congrArg (slab.objectAt system) same, part⟩
  · rintro ⟨rfl, part⟩
    exact ⟨mem_getObjects.mpr ⟨idx, bounded, rfl⟩, part⟩

/-- What has to be answered for an address in the slot of an object. -/
def properAnswer (slab : SlabSLUB) (obj addr : Int) : Bool × Int × Option Surroundings :=
  if addr < obj then (false, obj, some .leftRedZone)
  else if addr < obj + slab.kmemCache.inuse then (true, obj, none)
  else (false, obj, some .metadata)

include sized fits in
theorem properAnswer_classifies {idx : Nat} (here : slab.Slot system idx addr)
    (bounded : idx < slab.nrObjects) :
    slab.ClassifiesBySlot system addr (slab.properAnswer (slab.objectAt system idx) addr) := by
  have around := around_objectAt.mpr here
  simp only [Around] at around
  constructor
  · intro obj
    rw [mem_region_iff sized here bounded (fun obj => obj ≤ addr ∧ addr < obj + slab.kmemCache.inuse)
      fun obj part => ⟨by omega, by omega⟩]
    simp only [properAnswer]
    split
    · simp only [Prod.mk.injEq, Bool.false_eq_true, false_and, false_iff]
      omega
    · split
      · simp only [Prod.mk.injEq, true_and, and_true]
        omega
      · simp only [Prod.mk.injEq, Bool.false_eq_true, false_and, false_iff]
        omega
  · intro obj
    rw [mem_region_iff sized here bounded
      (fun obj => obj - slab.kmemCache.redLeftPad ≤ addr ∧ addr < obj)
      fun obj part => ⟨by omega, by omega⟩]
    simp only [properAnswer]
    split
    · simp only [Prod.mk.injEq, true_and, and_true]
      omega
    · split
      · simp only [Prod.mk.injEq, Bool.true_eq_false, false_and, false_iff]
        omega
      · simp only [Prod.mk.injEq, Option.some.injEq, reduceCtorEq, and_false, false_iff]
        omega
  · intro obj
    rw [mem_region_iff sized here bounded (fun obj => obj + slab.kmemCache.inuse ≤ addr ∧
        addr < obj - slab.kmemCache.redLeftPad + slab.kmemCache.size)
      fun obj part => ⟨by omega, by omega⟩]
    simp only [properAnswer]
    split
    · simp only [Prod.mk.injEq, Option.some.injEq, reduceCtorEq, and_false, false_iff]
      omega
    · split
      · simp only [Prod.mk.injEq, Bool.true_eq_false, false_and, false_iff]
        omega
      · simp only [Prod.mk.injEq, true_and, and_true]
        omega
  · have claimed : slab.objectAt system idx ∈ slab.getObjects system :=
      mem_getObjects.mpr ⟨idx, bounded, rfl⟩
    have inSlot : ¬ forall obj, obj ∈ slab.getObjects system -> ¬ slab.Around obj addr :=
      fun none => none _ claimed around
    have other : slab.properAnswer (slab.objectAt system idx) addr ≠ (false, 0, some .outside) := by
      simp only [properAnswer]
      split
      · simp
      · split
        · simp
        · simp
    exact iff_of_false other inSlot

include sized fits in
/-- There is one proper answer for an address in a slot. -/
theorem classifiesBySlot_iff {idx : Nat} (here : slab.Slot system idx addr)
    (bounded : idx < slab.nrObjects) (answer : Bool × Int × Option Surroundings) :
    slab.ClassifiesBySlot system addr answer <->
      answer = slab.properAnswer (slab.objectAt system idx) addr := by
  have proper := properAnswer_classifies sized fits here bounded
  constructor
  · intro classifies
    have around := around_objectAt.mpr here
    by_cases low : addr < slab.objectAt system idx
    · have same : slab.properAnswer (slab.objectAt system idx) addr =
          (false, slab.objectAt system idx, some .leftRedZone) := if_pos low
      rw [same]
      exact (classifies.leftRedZone _).mpr ((proper.leftRedZone _).mp same)
    · by_cases inner : addr < slab.objectAt system idx + slab.kmemCache.inuse
      · have same : slab.properAnswer (slab.objectAt system idx) addr =
            (true, slab.objectAt system idx, none) := (if_neg low).trans (if_pos inner)
        rw [same]
        exact (classifies.contained _).mpr ((proper.contained _).mp same)
      · have same : slab.properAnswer (slab.objectAt system idx) addr =
            (false, slab.objectAt system idx, some .metadata) := (if_neg low).trans (if_neg inner)
        rw [same]
        exact (classifies.metadata _).mpr ((proper.metadata _).mp same)
  · intro same
    rw [same]
    exact proper

include fits in
/-- An address in no slot is outside. -/
theorem classifiesBySlot_outside (none : forall idx, idx < slab.nrObjects -> ¬ slab.Slot system idx addr) :
    slab.ClassifiesBySlot system addr (false, 0, some .outside) := by
  have away : forall obj, obj ∈ slab.getObjects system -> ¬ slab.Around obj addr := by
    intro obj member around
    rcases mem_getObjects.mp member with ⟨idx, bounded, rfl⟩
    exact none idx bounded (around_objectAt.mp around)
  constructor
  · intro obj
    apply iff_of_false (by simp)
    rintro ⟨member, above, below⟩
    exact away obj member ⟨by omega, by omega⟩
  · intro obj
    apply iff_of_false (by simp)
    rintro ⟨member, above, below⟩
    exact away obj member ⟨by omega, by omega⟩
  · intro obj
    apply iff_of_false (by simp)
    rintro ⟨member, above, below⟩
    exact away obj member ⟨by omega, by omega⟩
  · exact iff_of_true rfl away

/-- The answer of `contains_obj` for an address in the slot of an object. -/
def givenAnswer (slab : SlabSLUB) (obj addr : Int) : Bool × Int × Option Surroundings :=
  if obj = 0 then (false, 0, some .outside)
  else if addr < obj then (false, obj, some .leftRedZone)
  else if obj + slab.kmemCache.inuse < addr then (false, obj, some .metadata)
  else (true, obj, none)

include made sized in
theorem containsObj_of_slot {idx : Nat} (here : slab.Slot system idx addr)
    (bounded : idx < slab.nrObjects) :
    slab.containsObj system addr = .ok (slab.givenAnswer (slab.objectAt system idx) addr) := by
  simp only [containsObj, givenAnswer]
  rw [findObj_of_slot made sized here bounded]
  change (if slab.objectAt system idx = 0 then _ else _) = _
  split
  · rfl
  · split
    · rfl
    · split
      · rfl
      · rfl

include made sized in
/-- The answer of `contains_obj` for an address that is in no slot. -/
theorem containsObj_of_outside (none : forall idx, idx < slab.nrObjects -> ¬ slab.Slot system idx addr) :
    slab.containsObj system addr = .ok (false, 0, some .outside) := by
  simp only [containsObj]
  rw [(findObj_eq_none made sized addr).mpr none]
  rfl

/-- The answer is not the proper one for an object at address zero, and not where the metadata
begins. -/
theorem givenAnswer_eq_iff (obj addr : Int) :
    slab.givenAnswer obj addr = slab.properAnswer obj addr <-> obj ≠ 0 ∧ addr ≠ obj + slab.kmemCache.inuse := by
  simp only [givenAnswer, properAnswer]
  by_cases zero : obj = 0
  · rw [if_pos zero]
    apply iff_of_false
    · split
      · simp
      · split
        · simp
        · simp
    · exact fun both => both.1 zero
  · rw [if_neg zero]
    by_cases low : addr < obj
    · rw [if_pos low, if_pos low]
      exact iff_of_true rfl ⟨zero, by omega⟩
    · rw [if_neg low, if_neg low]
      by_cases inner : addr < obj + slab.kmemCache.inuse
      · rw [if_pos inner, if_neg (by omega)]
        exact iff_of_true rfl ⟨zero, by omega⟩
      · rw [if_neg inner]
        by_cases beyond : obj + slab.kmemCache.inuse < addr
        · rw [if_pos beyond]
          exact iff_of_true rfl ⟨zero, by omega⟩
        · rw [if_neg beyond]
          exact iff_of_false (by simp) fun both => both.2 (by omega)

include sized in
/-- In a slot there is one object to look at. -/
theorem forall_around_iff {idx : Nat} (here : slab.Slot system idx addr) (bounded : idx < slab.nrObjects)
    (condition : Int -> Prop) :
    (forall obj, obj ∈ slab.getObjects system -> slab.Around obj addr -> condition obj) <->
      condition (slab.objectAt system idx) := by
  have region := mem_region_iff sized here bounded (fun obj => slab.Around obj addr)
    fun _ around => around
  constructor
  · intro all
    have itself := (region _).mpr ⟨rfl, around_objectAt.mpr here⟩
    exact all _ itself.1 itself.2
  · intro holds obj member around
    rw [((region obj).mp ⟨member, around⟩).1]
    exact holds

include made sized fits in
/-- `contains_obj` answers by the slots except in two places: right behind an object, where
the metadata begins, and around an object at address zero. -/
theorem containsObj_classifies (addr : Int) :
    (Exists fun answer : Bool × Int × Option Surroundings =>
      slab.containsObj system addr = .ok answer ∧ slab.ClassifiesBySlot system addr answer) <->
      forall obj, obj ∈ slab.getObjects system -> slab.Around obj addr ->
        obj ≠ 0 ∧ addr ≠ obj + slab.kmemCache.inuse := by
  by_cases inSlot : Exists fun idx : Nat => idx < slab.nrObjects ∧ slab.Slot system idx addr
  · rcases inSlot with ⟨idx, bounded, here⟩
    rw [forall_around_iff sized here bounded fun obj => obj ≠ 0 ∧ addr ≠ obj + slab.kmemCache.inuse,
      containsObj_of_slot made sized here bounded]
    simp only [Except.ok.injEq, exists_eq_left', classifiesBySlot_iff sized fits here bounded]
    exact givenAnswer_eq_iff (slab.objectAt system idx) addr
  · have none : forall idx, idx < slab.nrObjects -> ¬ slab.Slot system idx addr :=
      fun idx bounded here => inSlot ⟨idx, bounded, here⟩
    apply iff_of_true
    · exact ⟨_, containsObj_of_outside made sized none, classifiesBySlot_outside fits none⟩
    · intro obj member around
      rcases mem_getObjects.mp member with ⟨idx, bounded, rfl⟩
      exact False.elim (none idx bounded (around_objectAt.mp around))

end Classification

theorem containsObj_classifies_row :
    (Exists fun answer : Bool × Int × Option Surroundings =>
      rowSlab.containsObj rowSystem 0xffff880000004011 = .ok answer ∧
        rowSlab.ClassifiesBySlot rowSystem 0xffff880000004011 answer) <->
      forall obj, obj ∈ rowSlab.getObjects rowSystem -> rowSlab.Around obj 0xffff880000004011 ->
        obj ≠ 0 ∧ (0xffff880000004011 : Int) ≠ obj + rowSlab.kmemCache.inuse :=
  @containsObj_classifies rowSystem rowSlab 0xffffea0000000100 rowCache rfl (by decide) (by decide) _

/-- The first byte of the metadata behind the first object is taken for a part of the
object. -/
theorem containsObj_takes_metadata :
    rowSlab.containsObj rowSystem 0xffff880000004070 = .ok (true, 0xffff880000004010, none) ∧
      (0xffff880000004010 : Int) + rowSlab.kmemCache.inuse = 0xffff880000004070 ∧
      ¬ rowSlab.ClassifiesBySlot rowSystem 0xffff880000004070 (true, 0xffff880000004010, none) := by
  refine ⟨rfl, rfl, fun classifies => ?_⟩
  have inside := (classifies.contained 0xffff880000004010).mp rfl
  exact absurd inside.2.2 (by decide)

end SlabSLUB

end Slab
end CrashPython

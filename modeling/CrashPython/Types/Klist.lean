import CrashPython.Library.Script
import CrashPython.Types.ListEntries

namespace CrashPython
namespace Types

open Library

/-!
# Lists of `crash/types/klist.py` and class devices

A `klist` is a list whose nodes know which list they are on.  The walk of
`crash/types/klist.py` compares that with the list it was given, and ends at the first node that
does not belong to it.

The devices of a class are on such a list.  Their nodes are in the device itself or in the
private part of it, which has a pointer to the device.
-/

/-- The argument of `klist_for_each`. -/
inductive KlistArgument where
  | klist (address : Nat)
  | klistPointer (address : Nat)
  | otherType (name : String)
deriving DecidableEq, Repr

/-- Everything that can leave a walk of a `klist`. -/
inductive KlistError where
  | list (error : ListError)
  | invalidArgument (type : String)
  | klistCorrupted
  | unreadable (address : Nat)
deriving DecidableEq, Repr

/-- The messages of the exceptions of the module. -/
def KlistError.text : KlistError -> Option String
  | .invalidArgument type =>
      some ("klist must be gdb.Value representing 'struct klist' or 'struct klist *' not " ++ type)
  | .klistCorrupted => some "Corrupted"
  | .list _ => none
  | .unreadable _ => none

/-- The nodes of the lists of a target.  The offsets are those of `k_list` in a `struct klist`
and of `n_node` in a `struct klist_node`. -/
structure KlistMemory where
  lists : ListMemory
  nKlist : MemoryImage Nat
  kListOffset : Nat
  nNodeOffset : Nat

namespace KlistMemory

variable (memory : KlistMemory)

/-- The comparison with `n_klist`. -/
def klistNode (klist node : Nat) : Run Nat KlistError :=
  match memory.nKlist.read node with
  | none => ⟨[], .raised (.unreadable node)⟩
  | some owner => if owner = klist then ⟨[node], .completed⟩ else ⟨[], .raised .klistCorrupted⟩

/-- The loop of `klist_for_each`. -/
def klistNodes (klist : Nat) : Run Nat KlistError :=
  (listEntries memory.lists {} memory.nNodeOffset (memberOf memory.kListOffset klist)).forEach .list
    (memory.klistNode klist)

/-- `klist_for_each`. -/
def klistForEach : KlistArgument -> Run Nat KlistError
  | .klist address => memory.klistNodes address
  | .klistPointer address => memory.klistNodes address
  | .otherType name => ⟨[], .raised (.invalidArgument name)⟩

/-- `klist_for_each_entry`, for a member at some offset. -/
def klistForEachEntry (argument : KlistArgument) (offset : Nat) : Run Nat KlistError :=
  (memory.klistForEach argument).forEach id fun node => ⟨[entryOf offset node], .completed⟩

/-- A sound list whose nodes all belong to it. -/
structure OwnedList (klist : Nat) (nodes : List Nat) : Prop where
  sound : SoundList memory.lists memory.nNodeOffset (memberOf memory.kListOffset klist) nodes
  owned : forall node, node ∈ nodes -> memory.nKlist.read node = some klist

variable {memory} {klist node : Nat} {nodes : List Nat}

theorem klistNode_owned (owned : memory.nKlist.read node = some klist) :
    memory.klistNode klist node = ⟨[node], .completed⟩ := by
  rw [klistNode, owned]
  exact if_pos rfl

theorem klistNode_completed (completed : (memory.klistNode klist node).ending = .completed) :
    memory.nKlist.read node = some klist := by
  rw [klistNode] at completed
  split at completed
  · cases completed
  · rename_i owner found
    by_cases same : owner = klist
    · rw [found, same]
    · rw [if_neg same] at completed
      cases completed

theorem OwnedList.klistNodes (list : memory.OwnedList klist nodes) :
    memory.klistNodes klist = ⟨nodes, .completed⟩ := by
  have listed := list.sound.listEntries false
  rw [if_neg Bool.false_ne_true, List.nil_append] at listed
  rw [KlistMemory.klistNodes, listed,
    Run.forEach_emits fun node member => klistNode_owned (list.owned node member), List.flatMap_singleton']

/-- The walk completes exactly on a sound list whose nodes all belong to it. -/
theorem klistNodes_completed_iff : (memory.klistNodes klist).ending = .completed <->
    Exists fun nodes : List Nat => memory.OwnedList klist nodes := by
  constructor
  · intro completed
    rcases Run.forEach_completed completed with ⟨walked, bodies⟩
    rcases (listEntries_completed_iff false).mp walked with ⟨nodes, sound⟩
    refine ⟨nodes, sound, fun node member => klistNode_completed (bodies node ?_)⟩
    have listed := sound.listEntries false
    rw [if_neg Bool.false_ne_true, List.nil_append] at listed
    rw [listed]
    exact member
  · rintro ⟨nodes, list⟩
    rw [list.klistNodes]

end KlistMemory

/-! ## Class devices -/

/-- The devices of a target.  `knode_class` is in `struct device` or in `struct device_private`,
depending on which of the two has such a member. -/
structure DeviceMemory extends KlistMemory where
  subsysPrivate : MemoryImage Nat
  klistDevicesOffset : Nat
  classIsPrivate : Bool
  knodeClassOffset : Nat
  device : MemoryImage Nat
  deviceType : MemoryImage Nat

/-- `ClassdevState.setup_iterator_type`, for a `struct device` with or without the member. -/
def setupIteratorType (hasKnodeClass classIsPrivate : Bool) : Bool :=
  if hasKnodeClass then false else classIsPrivate

namespace DeviceMemory

variable (memory : DeviceMemory)

/-- The device of a node. -/
def deviceOf (knode : Nat) : Except KlistError Nat :=
  let dev := entryOf memory.knodeClassOffset knode
  if memory.classIsPrivate then
    match memory.device.read dev with
    | none => .error (.unreadable dev)
    | some device => .ok device
  else .ok dev

/-- The field `type` of a device. -/
def typeOf (dev : Nat) : Except KlistError Nat :=
  match memory.deviceType.read dev with
  | none => .error (.unreadable dev)
  | some type => .ok type

/-- Whether a device passes the filter.  Without one its type is not read. -/
def passes (subtype : Option Nat) (dev : Nat) : Except KlistError Bool :=
  match subtype with
  | none => .ok true
  | some wanted => (memory.typeOf dev).map fun type => decide (wanted = type)

/-- The body of the loop of `for_each_class_device`. -/
def classDevice (subtype : Option Nat) (knode : Nat) : Run Nat KlistError :=
  match (do
    let dev ← memory.deviceOf knode
    return (dev, ← memory.passes subtype dev)) with
  | .error error => ⟨[], .raised error⟩
  | .ok (dev, passed) => ⟨if passed then [dev] else [], .completed⟩

/-- `for_each_class_device`, for the address of a class. -/
def forEachClassDevice (classStruct : Nat) (subtype : Option Nat) : Run Nat KlistError :=
  match memory.subsysPrivate.read classStruct with
  | none => ⟨[], .raised (.unreadable classStruct)⟩
  | some p =>
      (memory.klistForEach (.klist (memberOf memory.klistDevicesOffset p))).forEach id
        (memory.classDevice subtype)

/-- The device of a node and its type. -/
def described (knode : Nat) : Except KlistError (Nat × Nat) := do
  let dev ← memory.deviceOf knode
  return (dev, ← memory.typeOf dev)

/-- The devices of a class with their types, in the order of the list. -/
def Registered (classStruct : Nat) (devices : List (Nat × Nat)) : Prop :=
  Exists fun p : Nat => Exists fun knodes : List Nat =>
    memory.subsysPrivate.read classStruct = some p ∧
      memory.OwnedList (memberOf memory.klistDevicesOffset p) knodes ∧
        knodes.map memory.described = devices.map .ok

/-- The devices that pass the filter. -/
def selects (subtype : Option Nat) (device : Nat × Nat) : Bool :=
  match subtype with
  | none => true
  | some wanted => wanted == device.2

variable {memory} {classStruct knode dev : Nat} {subtype : Option Nat} {device : Nat × Nat}
variable {devices : List (Nat × Nat)}

theorem described_eq_ok : memory.described knode = .ok device <->
    memory.deviceOf knode = .ok device.1 ∧ memory.typeOf device.1 = .ok device.2 := by
  rw [described, except_bind_ok]
  constructor
  · rintro ⟨dev, found, rest⟩
    rcases except_bind_ok.mp rest with ⟨type, read, same⟩
    cases same
    exact ⟨found, read⟩
  · rintro ⟨found, read⟩
    exact ⟨device.1, found, except_bind_ok.mpr ⟨device.2, read, rfl⟩⟩

theorem passes_of_described (described : memory.described knode = .ok device) :
    memory.passes subtype device.1 = .ok (selects subtype device) := by
  cases subtype with
  | none => rfl
  | some wanted =>
      rw [passes, (described_eq_ok.mp described).2]
      rfl

/-- The body of the loop at a node whose device is known. -/
theorem classDevice_of_described (described : memory.described knode = .ok device) :
    memory.classDevice subtype knode = ⟨if selects subtype device then [device.1] else [], .completed⟩ := by
  have both : (do
      let dev ← memory.deviceOf knode
      return (dev, ← memory.passes subtype dev)) = .ok (device.1, selects subtype device) :=
    except_bind_ok.mpr ⟨device.1, (described_eq_ok.mp described).1,
      except_bind_ok.mpr ⟨_, passes_of_described described, rfl⟩⟩
  rw [classDevice, both]

theorem classDevice_completed (completed : (memory.classDevice subtype knode).ending = .completed) :
    Exists fun dev : Nat => Exists fun passed : Bool => memory.deviceOf knode = .ok dev ∧
      memory.passes subtype dev = .ok passed ∧
        (memory.classDevice subtype knode).events = if passed then [dev] else [] := by
  simp only [classDevice] at completed ⊢
  split at completed
  · cases completed
  · rename_i dev passed both
    rcases except_bind_ok.mp both with ⟨found, device, rest⟩
    rcases except_bind_ok.mp rest with ⟨answer, filtered, same⟩
    cases same
    exact ⟨dev, passed, device, filtered, rfl⟩

/-- The devices of a class that pass the filter are yielded in their order. -/
theorem Registered.classDevices (registered : memory.Registered classStruct devices)
    (subtype : Option Nat) : memory.forEachClassDevice classStruct subtype =
      ⟨(devices.filter (selects subtype)).map Prod.fst, .completed⟩ := by
  rcases registered with ⟨p, knodes, readable, list, shape⟩
  have each : forall knode, knode ∈ knodes -> Exists fun device : Nat × Nat =>
      memory.described knode = .ok device := by
    intro knode member
    have listed : memory.described knode ∈ devices.map Except.ok := by
      rw [← shape]
      exact List.mem_map_of_mem member
    rcases List.mem_map.mp listed with ⟨device, _, same⟩
    exact ⟨device, same.symm⟩
  let shown : Except KlistError (Nat × Nat) -> List Nat := fun result =>
    match result with
    | .error _ => []
    | .ok device => if selects subtype device then [device.1] else []
  have bodies : forall knode, knode ∈ knodes ->
      memory.classDevice subtype knode = ⟨shown (memory.described knode), .completed⟩ := by
    intro knode member
    rcases each knode member with ⟨device, described⟩
    rw [classDevice_of_described described, described]
  have emitted : knodes.flatMap (fun knode => shown (memory.described knode)) =
      (devices.filter (selects subtype)).map Prod.fst := by
    have shifted : knodes.flatMap (fun knode => shown (memory.described knode)) =
        (knodes.map memory.described).flatMap shown := (List.flatMap_map _ _ _).symm
    have selected : (devices.filter (selects subtype)).map Prod.fst =
        devices.flatMap fun device => if selects subtype device then [device.1] else [] := by
      conv_lhs => rw [← List.flatMap_singleton' devices, List.filter_flatMap, List.map_flatMap]
      apply List.flatMap_congr
      intro device _
      cases chosen : selects subtype device <;> simp [chosen]
    rw [shifted, shape, List.flatMap_map, selected]
  rw [forEachClassDevice, readable]
  simp only [KlistMemory.klistForEach]
  rw [list.klistNodes, Run.forEach_emits bodies, emitted]

/-- A walk that completes has gone over a list of nodes with all of its bodies completed. -/
theorem forEachClassDevice_completed
    (completed : (memory.forEachClassDevice classStruct subtype).ending = .completed) :
    Exists fun p : Nat => Exists fun knodes : List Nat =>
      memory.subsysPrivate.read classStruct = some p ∧
        memory.OwnedList (memberOf memory.klistDevicesOffset p) knodes ∧
          (forall knode, knode ∈ knodes -> (memory.classDevice subtype knode).ending = .completed) ∧
            (memory.forEachClassDevice classStruct subtype).events =
              knodes.flatMap fun knode => (memory.classDevice subtype knode).events := by
  cases readable : memory.subsysPrivate.read classStruct with
  | none =>
      rw [forEachClassDevice, readable] at completed
      cases completed
  | some p =>
      simp only [forEachClassDevice, readable, KlistMemory.klistForEach] at completed ⊢
      rcases Run.forEach_completed completed with ⟨walked, bodies⟩
      rcases KlistMemory.klistNodes_completed_iff.mp walked with ⟨knodes, list⟩
      rw [list.klistNodes] at bodies ⊢
      refine ⟨p, knodes, rfl, list, bodies, ?_⟩
      rw [Run.forEach_of_completed bodies]

/-- Nodes whose devices are known are those of registered devices. -/
theorem registered_of_described {p : Nat} {knodes : List Nat}
    (readable : memory.subsysPrivate.read classStruct = some p)
    (list : memory.OwnedList (memberOf memory.klistDevicesOffset p) knodes)
    (described : forall knode, knode ∈ knodes -> Exists fun device : Nat × Nat =>
      memory.described knode = .ok device) :
    Exists fun devices : List (Nat × Nat) => memory.Registered classStruct devices := by
  have shape : Exists fun devices : List (Nat × Nat) =>
      knodes.map memory.described = devices.map .ok := by
    clear list
    induction knodes with
    | nil => exact ⟨[], rfl⟩
    | cons knode rest inductionHypothesis =>
        rcases described knode List.mem_cons_self with ⟨device, here⟩
        rcases inductionHypothesis fun other member =>
          described other (List.mem_cons_of_mem knode member) with ⟨devices, later⟩
        exact ⟨device :: devices, by rw [List.map_cons, List.map_cons, here, later]⟩
  rcases shape with ⟨devices, shape⟩
  exact ⟨devices, p, knodes, readable, list, shape⟩

end DeviceMemory
end Types
end CrashPython

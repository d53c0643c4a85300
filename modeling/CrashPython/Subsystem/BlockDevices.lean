import CrashPython.Library.PyString
import CrashPython.Library.Script
import CrashPython.Types.Klist

namespace CrashPython
namespace Subsystem

open Library Types

/-!
# Block devices of `crash/subsystem/storage/__init__.py`

Disks and partitions are devices of the class `block_class`, and their types tell them apart.  A
filter is applied before the type is looked at, so that a filtered walk passes over devices of
unknown types, and only an unfiltered one raises an exception there.

A kernel may have no `struct hd_struct`.  Partitions can not be converted then, but disks can.

The name of a partition is that of its disk with the number of the partition behind it.
-/

/-- A `struct gendisk`: one at an address, or the one that a `struct block_device` points to. -/
inductive Disk where
  | gendisk (address : Nat)
  | bdDisk (bdev : Nat)
deriving DecidableEq, Repr

/-- A value that is yielded. -/
inductive BlockValue where
  | disk (disk : Disk)
  | hdStruct (address : Nat)
deriving DecidableEq, Repr

/-- The value is a disk. -/
def BlockValue.isDisk : BlockValue -> Bool
  | .disk _ => true
  | .hdStruct _ => false

/-- The argument `subtype`. -/
inductive BlockSubtype where
  | none
  | deviceType (address : Nat)
  | pointer (address : Nat)
  | otherType (name : String)
deriving DecidableEq, Repr

/-- Everything that can leave the functions here. -/
inductive BlockError where
  | device (error : KlistError)
  | invalidSubtype (type : String)
  | unexpectedType (type : Nat)
  | delayedAttribute (name : String)
  | unreadable (address : Nat)
  | undecodable (address : Nat)
deriving DecidableEq, Repr

/-- The messages of the exceptions of the module.  A `struct device_type *` is shown by its
address. -/
def BlockError.text : BlockError -> Option String
  | .invalidSubtype type => some ("subtype must be struct device_type * not " ++ type)
  | .unexpectedType type => some ("Encountered unexpected device type " ++ hexAddress type)
  | .device _ => none
  | .delayedAttribute _ => none
  | .unreadable _ => none
  | .undecodable _ => none

/-- The block devices of a target.  The device of a disk is in the `gendisk`, at the offset of
`part0.__dev`, or, if there is no such member, in a `struct block_device`.  The device of a
partition is in its `hd_struct`, if there is such a type.  The bytes of a name may fail to decode. -/
structure BlockMemory extends DeviceMemory where
  blockClass : Nat
  diskType : Nat
  partType : Nat
  part0DevOffset : Option Nat
  bdDeviceOffset : Nat
  partDevOffset : Option Nat
  bdDisk : MemoryImage Nat
  parent : MemoryImage Nat
  diskName : MemoryImage (Option PyString)
  partno : MemoryImage Int

namespace BlockMemory

variable (memory : BlockMemory)

/-- A field access. -/
def field {Value : Type} (image : MemoryImage Value) (address : Nat) : Except BlockError Value :=
  match image.read address with
  | none => .error (.unreadable address)
  | some value => .ok value

/-- `dev_to_bdev`. -/
def devToBdev (dev : Nat) : Nat :=
  entryOf memory.bdDeviceOffset dev

/-- `dev_to_gendisk`. -/
def devToGendisk (dev : Nat) : Disk :=
  match memory.part0DevOffset with
  | some offset => .gendisk (entryOf offset dev)
  | none => .bdDisk (memory.devToBdev dev)

/-- `types.hd_struct_type`, of which only the offset of the device is used. -/
def hdStructType : Except BlockError Nat :=
  match memory.partDevOffset with
  | none => .error (.delayedAttribute "hd_struct_type")
  | some offset => .ok offset

/-- `dev_to_part`. -/
def devToPart (dev : Nat) : Except BlockError Nat := do
  return entryOf (← memory.hdStructType) dev

/-- `part_to_dev`. -/
def partToDev (part : Nat) : Except BlockError Nat := do
  return memberOf (← memory.hdStructType) part

/-- The value for a device of a known type. -/
def converted (device : Nat × Nat) : Option BlockValue :=
  if device.2 = memory.diskType then some (.disk (memory.devToGendisk device.1))
  else (memory.devToPart device.1).toOption.map .hdStruct

/-- The body of the loop of `for_each_block_device`. -/
def blockDevice (dev : Nat) : Run BlockValue BlockError :=
  match memory.typeOf dev with
  | .error error => ⟨[], .raised (.device error)⟩
  | .ok type =>
      if type = memory.diskType then ⟨[.disk (memory.devToGendisk dev)], .completed⟩
      else if type = memory.partType then Run.whenRead (memory.devToPart dev) fun part =>
        ⟨[.hdStruct part], .completed⟩
      else ⟨[], .raised (.unexpectedType type)⟩

/-- The loop of `for_each_block_device`. -/
def blockDevices (subtype : Option Nat) : Run BlockValue BlockError :=
  (memory.forEachClassDevice memory.blockClass subtype).forEach .device memory.blockDevice

/-- `for_each_block_device`.  A null pointer is not checked, but it is compared with the types. -/
def forEachBlockDevice : BlockSubtype -> Run BlockValue BlockError
  | .none => memory.blockDevices none
  | .deviceType address => memory.blockDevices (some address)
  | .pointer address => memory.blockDevices (some address)
  | .otherType name => ⟨[], .raised (.invalidSubtype name)⟩

/-- `for_each_disk`. -/
def forEachDisk : Run BlockValue BlockError :=
  memory.forEachBlockDevice (.deviceType memory.diskType)

/-- The block devices with their types, in the order of the class. -/
def Devices (devices : List (Nat × Nat)) : Prop :=
  memory.Registered memory.blockClass devices

/-- The type is that of a disk, or that of a partition and there is a `struct hd_struct`. -/
def Known (device : Nat × Nat) : Prop :=
  device.2 = memory.diskType ∨ (device.2 = memory.partType ∧ memory.partDevOffset ≠ none)

variable {memory} {devices : List (Nat × Nat)} {device : Nat × Nat} {subtype : Option Nat} {dev : Nat}

theorem blockDevice_of_known (read : memory.typeOf device.1 = .ok device.2) (known : memory.Known device) :
    memory.blockDevice device.1 = ⟨(memory.converted device).toList, .completed⟩ := by
  simp only [blockDevice, converted, read]
  by_cases disk : device.2 = memory.diskType
  · rw [if_pos disk, if_pos disk]
    rfl
  · rcases known.resolve_left disk with ⟨partition, there⟩
    rcases Option.ne_none_iff_exists'.mp there with ⟨offset, found⟩
    rw [if_neg disk, if_neg disk, if_pos partition, devToPart, hdStructType, found]
    rfl

theorem blockDevice_completed (completed : (memory.blockDevice dev).ending = .completed) :
    Exists fun type : Nat => memory.typeOf dev = .ok type ∧ memory.Known (dev, type) := by
  simp only [blockDevice] at completed
  cases read : memory.typeOf dev with
  | error error =>
      rw [read] at completed
      cases completed
  | ok type =>
      refine ⟨type, rfl, ?_⟩
      by_contra unknown
      rcases not_or.mp unknown with ⟨notDisk, notPart⟩
      rw [read] at completed
      simp only [if_neg notDisk] at completed
      by_cases partition : type = memory.partType
      · have missing : memory.partDevOffset = none := by
          by_contra there
          exact notPart ⟨partition, there⟩
        rw [if_pos partition, devToPart, hdStructType, missing] at completed
        cases completed
      · rw [if_neg partition] at completed
        cases completed

/-- The type of a registered device can be read. -/
theorem Devices.typed (registered : memory.Devices devices) (member : device ∈ devices) :
    memory.typeOf device.1 = .ok device.2 := by
  rcases registered with ⟨p, knodes, _, _, shape⟩
  have listed : (.ok device : Except KlistError (Nat × Nat)) ∈ knodes.map memory.described := by
    rw [shape]
    exact List.mem_map_of_mem member
  rcases List.mem_map.mp listed with ⟨knode, _, described⟩
  exact (DeviceMemory.described_eq_ok.mp described).2

/-- Devices of known types are yielded in their order. -/
theorem Devices.blockDevices (registered : memory.Devices devices)
    (known : forall device, device ∈ devices -> DeviceMemory.selects subtype device = true ->
      memory.Known device) :
    memory.blockDevices subtype =
      ⟨(devices.filter (DeviceMemory.selects subtype)).filterMap memory.converted, .completed⟩ := by
  have bodies : forall device, device ∈ devices.filter (DeviceMemory.selects subtype) ->
      memory.blockDevice device.1 = ⟨(memory.converted device).toList, .completed⟩ := by
    intro device member
    rcases List.mem_filter.mp member with ⟨listed, selected⟩
    exact blockDevice_of_known (registered.typed listed) (known device listed selected)
  rw [BlockMemory.blockDevices, registered.classDevices subtype, Run.forEach_of_completed]
  · rw [List.flatMap_map, List.filterMap_eq_flatMap_toList]
    exact congrArg (Run.mk · _) (List.flatMap_congr fun device member => by rw [bodies device member])
  · intro dev member
    rcases List.mem_map.mp member with ⟨device, listed, rfl⟩
    rw [bodies device listed]

/-- A walk over all devices or over those of a type completes exactly if the list of the class
is sound, all types can be read, and those of the devices that pass the filter are known.  Then
the devices that pass are yielded in the order of the list. -/
theorem blockDevices_completed_iff (memory : BlockMemory) (subtype : Option Nat) :
    ((memory.blockDevices subtype).ending = .completed <->
      Exists fun devices : List (Nat × Nat) => memory.Devices devices ∧
        forall device, device ∈ devices -> DeviceMemory.selects subtype device = true ->
          memory.Known device) ∧
      forall devices, memory.Devices devices -> (memory.blockDevices subtype).ending = .completed ->
        (memory.blockDevices subtype).events =
          (devices.filter (DeviceMemory.selects subtype)).filterMap memory.converted := by
  have selectedKnown : forall devices, memory.Devices devices ->
      (memory.blockDevices subtype).ending = .completed ->
        forall device, device ∈ devices -> DeviceMemory.selects subtype device = true ->
          memory.Known device := by
    intro devices registered completed device member selected
    rcases Run.forEach_completed completed with ⟨_, bodies⟩
    rw [registered.classDevices subtype] at bodies
    have listed : device.1 ∈ (devices.filter (DeviceMemory.selects subtype)).map Prod.fst :=
      List.mem_map_of_mem (List.mem_filter.mpr ⟨member, selected⟩)
    rcases blockDevice_completed (bodies device.1 listed) with ⟨type, read, known⟩
    cases (registered.typed member).symm.trans read
    exact known
  refine ⟨⟨fun completed => ?_, ?_⟩, fun devices registered completed => ?_⟩
  · rcases Run.forEach_completed completed with ⟨walked, bodies⟩
    rcases DeviceMemory.forEachClassDevice_completed walked with
      ⟨p, knodes, readable, list, visited, shown⟩
    have described : forall knode, knode ∈ knodes -> Exists fun device : Nat × Nat =>
        memory.described knode = .ok device := by
      intro knode member
      rcases DeviceMemory.classDevice_completed (visited knode member) with
        ⟨dev, passed, found, filtered, emitted⟩
      cases subtype with
      | some wanted =>
          cases read : memory.typeOf dev with
          | error error =>
              simp only [DeviceMemory.passes, read] at filtered
              cases filtered
          | ok type => exact ⟨(dev, type), DeviceMemory.described_eq_ok.mpr ⟨found, read⟩⟩
      | none =>
          cases filtered
          have listed : dev ∈ (memory.forEachClassDevice memory.blockClass none).events := by
            rw [shown]
            refine List.mem_flatMap.mpr ⟨knode, member, ?_⟩
            rw [emitted]
            exact List.mem_singleton_self dev
          rcases blockDevice_completed (bodies dev listed) with ⟨type, read, _⟩
          exact ⟨(dev, type), DeviceMemory.described_eq_ok.mpr ⟨found, read⟩⟩
    rcases DeviceMemory.registered_of_described readable list described with ⟨devices, registered⟩
    exact ⟨devices, registered, selectedKnown devices registered completed⟩
  · rintro ⟨devices, registered, known⟩
    rw [Devices.blockDevices registered known]
  · rw [Devices.blockDevices registered (selectedKnown devices registered completed)]

/-- The value of a device is a disk just if its type is that of a disk. -/
theorem isDisk_converted {value : BlockValue} (shown : memory.converted device = some value) :
    value.isDisk = (memory.diskType == device.2) := by
  by_cases disk : device.2 = memory.diskType
  · rw [converted, if_pos disk] at shown
    rw [disk, beq_self_eq_true, ← Option.some.inj shown]
    rfl
  · rw [converted, if_neg disk] at shown
    rcases Option.map_eq_some_iff.mp shown with ⟨part, _, same⟩
    rw [beq_eq_false_iff_ne.mpr (Ne.symm disk), ← same]
    rfl

/-- The disks among the values are the values of the disks. -/
theorem filter_converted : (devices.filterMap memory.converted).filter BlockValue.isDisk =
    (devices.filter fun device => memory.diskType == device.2).filterMap memory.converted := by
  induction devices with
  | nil => rfl
  | cons device rest inductionHypothesis =>
      cases shown : memory.converted device with
      | none =>
          have other : (memory.diskType == device.2) = false := by
            rw [beq_eq_false_iff_ne]
            intro disk
            rw [converted, if_pos disk.symm] at shown
            cases shown
          rw [List.filterMap_cons_none shown, List.filter_cons_of_neg (by rw [other]; exact Bool.false_ne_true),
            inductionHypothesis]
      | some value =>
          have kind := isDisk_converted shown
          rw [List.filterMap_cons_some shown, List.filter_cons, List.filter_cons, kind, inductionHypothesis]
          cases (memory.diskType == device.2) with
          | false => rfl
          | true => exact (List.filterMap_cons_some shown).symm

/-- `for_each_disk` needs less than `for_each_block_device`, which raises an exception at a device
of an unknown type, and at a partition if there is no `struct hd_struct`.  Where both complete, the
disks are those among the block devices. -/
theorem forEachDisk_filters (memory : BlockMemory) :
    (memory.forEachDisk.ending = .completed <->
      Exists fun devices : List (Nat × Nat) => memory.Devices devices) ∧
      ((memory.forEachBlockDevice .none).ending = .completed <->
        Exists fun devices : List (Nat × Nat) => memory.Devices devices ∧
          forall device, device ∈ devices -> memory.Known device) ∧
      ((memory.forEachBlockDevice .none).ending = .completed ->
        memory.forEachDisk.events = (memory.forEachBlockDevice .none).events.filter BlockValue.isDisk) := by
  have disks := blockDevices_completed_iff memory (some memory.diskType)
  have all := blockDevices_completed_iff memory none
  have knownDisk : forall device : Nat × Nat,
      DeviceMemory.selects (some memory.diskType) device = true -> memory.Known device := by
    intro device selected
    exact Or.inl (beq_iff_eq.mp selected).symm
  have diskRuns : memory.forEachDisk.ending = .completed <->
      Exists fun devices : List (Nat × Nat) => memory.Devices devices := by
    refine disks.1.trans ⟨?_, ?_⟩
    · rintro ⟨devices, registered, _⟩
      exact ⟨devices, registered⟩
    · rintro ⟨devices, registered⟩
      exact ⟨devices, registered, fun device _ => knownDisk device⟩
  refine ⟨diskRuns, all.1.trans ?_, fun completed => ?_⟩
  · simp only [DeviceMemory.selects, true_implies]
  · rcases all.1.mp completed with ⟨devices, registered, _⟩
    have few := disks.2 devices registered (diskRuns.mpr ⟨devices, registered⟩)
    have many := all.2 devices registered completed
    change (memory.blockDevices (some memory.diskType)).events =
      (memory.blockDevices none).events.filter BlockValue.isDisk
    have everything : devices.filter (DeviceMemory.selects none) = devices :=
      List.filter_eq_self.mpr fun _ _ => rfl
    rw [few, many, everything, filter_converted]
    rfl

/-! ## Names -/

section Names

variable (memory)

/-- The address of a disk. -/
def diskAddress : Disk -> Except BlockError Nat
  | .gendisk address => .ok address
  | .bdDisk bdev => field memory.bdDisk bdev

/-- A number as `{:d}` writes it. -/
def numberText (number : Int) : PyString :=
  if number < 0 then '-' :: PyString.digits 10 number.natAbs else PyString.digits 10 number.natAbs

/-- `gendisk_name` of a disk. -/
def gendiskNameOfDisk (disk : Disk) : Except BlockError PyString := do
  let address ← memory.diskAddress disk
  match ← field memory.diskName address with
  | none => .error (.undecodable address)
  | some name => return name

/-- `gendisk_name`.  The comparison with `types.hd_struct_type` comes before the conversion. -/
def gendiskName : BlockValue -> Except BlockError PyString
  | .disk disk => memory.gendiskNameOfDisk disk
  | .hdStruct part => do
      let parent := memory.devToGendisk (← field memory.parent (← memory.partToDev part))
      let name ← memory.gendiskNameOfDisk parent
      return name ++ numberText (← field memory.partno part)

/-- The disk of a device, and its number if it is a partition. -/
def identity : BlockValue -> Except BlockError (Nat × Option Int)
  | .disk disk => do return (← memory.diskAddress disk, none)
  | .hdStruct part => do
      let parent := memory.devToGendisk (← field memory.parent (← memory.partToDev part))
      let disk ← memory.diskAddress parent
      return (disk, some (← field memory.partno part))

/-- No disk has the name of another one with digits behind it. -/
def Unambiguous : Prop :=
  forall one two name tail, memory.diskName.read one = some (some (name ++ tail)) ->
    memory.diskName.read two = some (some name) -> (forall digit, digit ∈ tail -> digit.isDigit = true) -> one = two

end Names

/-- The text behind the name of the disk. -/
def suffix : Option Int -> PyString
  | none => []
  | some number => numberText number

theorem field_ok {Value : Type} {image : MemoryImage Value} {address : Nat} {value : Value} :
    field image address = .ok value <-> image.read address = some value := by
  rw [field]
  cases image.read address with
  | none => exact ⟨fun impossible => (by cases impossible), fun impossible => (by cases impossible)⟩
  | some stored =>
      exact ⟨fun same => congrArg some (Except.ok.inj same), fun same => congrArg _ (Option.some.inj same)⟩

/-- The name of a disk is the one at its address. -/
theorem gendiskNameOfDisk_ok {disk : Disk} {name : PyString}
    (named : memory.gendiskNameOfDisk disk = .ok name) : Exists fun address : Nat =>
      memory.diskAddress disk = .ok address ∧ memory.diskName.read address = some (some name) := by
  rcases except_bind_ok.mp named with ⟨address, found, rest⟩
  rcases except_bind_ok.mp rest with ⟨decoded, stored, shown⟩
  cases decoded with
  | none => cases shown
  | some text =>
      cases shown
      exact ⟨address, found, field_ok.mp stored⟩

/-- A name is that of the disk, with the number of a partition behind it. -/
theorem gendiskName_ok {value : BlockValue} {text : PyString} (named : memory.gendiskName value = .ok text) :
    Exists fun disk : Nat => Exists fun number : Option Int => Exists fun name : PyString =>
      memory.identity value = .ok (disk, number) ∧ memory.diskName.read disk = some (some name) ∧
        (forall part, number = some part -> Exists fun address : Nat =>
          memory.partno.read address = some part) ∧
        text = name ++ suffix number := by
  cases value with
  | disk whole =>
      rcases gendiskNameOfDisk_ok named with ⟨disk, found, name⟩
      exact ⟨disk, none, text, except_bind_ok.mpr ⟨disk, found, rfl⟩, name,
        fun part impossible => (by cases impossible), (List.append_nil text).symm⟩
  | hdStruct part =>
      rcases except_bind_ok.mp named with ⟨dev, device, above⟩
      rcases except_bind_ok.mp above with ⟨parent, pointer, rest⟩
      rcases except_bind_ok.mp rest with ⟨name, inner, last⟩
      rcases except_bind_ok.mp last with ⟨number, stored, same⟩
      rcases gendiskNameOfDisk_ok inner with ⟨disk, found, shown⟩
      refine ⟨disk, some number, name, ?_, shown, ?_, (Except.ok.inj same).symm⟩
      · exact except_bind_ok.mpr ⟨dev, device, except_bind_ok.mpr ⟨parent, pointer,
          except_bind_ok.mpr ⟨disk, found, except_bind_ok.mpr ⟨number, stored, rfl⟩⟩⟩⟩
      · intro other equal
        cases equal
        exact ⟨part, field_ok.mp stored⟩

/-- The text of a number that is not negative has only digits. -/
theorem suffix_digits {number : Option Int} (positive : forall part, number = some part -> 0 ≤ part)
    {digit : Char} (member : digit ∈ suffix number) : digit.isDigit = true := by
  cases number with
  | none => exact False.elim (List.not_mem_nil member)
  | some part =>
      rw [suffix, numberText, if_neg (Int.not_lt.mpr (positive part rfl))] at member
      exact Nat.isDigit_of_mem_toDigits (by decide) (by decide) member

theorem suffix_inj {one two : Option Int} (positive : forall part, one = some part -> 0 ≤ part)
    (positiveToo : forall part, two = some part -> 0 ≤ part) (same : suffix one = suffix two) :
    one = two := by
  have shown : forall {number : Int}, 0 ≤ number ->
      suffix (some number) = Nat.toDigits 10 number.natAbs := by
    intro number above
    rw [suffix, numberText, if_neg (Int.not_lt.mpr above)]
    rfl
  cases one with
  | none =>
      cases two with
      | none => rfl
      | some number =>
          rw [shown (positiveToo number rfl)] at same
          exact False.elim (Nat.toDigits_ne_nil same.symm)
  | some first =>
      rw [shown (positive first rfl)] at same
      cases two with
      | none => exact False.elim (Nat.toDigits_ne_nil same)
      | some second =>
          rw [shown (positiveToo second rfl)] at same
          have values := congrArg (fun text => Nat.ofDigitChars 10 text 0) same
          simp only [Nat.ofDigitChars_ten_toDigits] at values
          have equal : first = second := by
            have above := positive first rfl
            have aboveToo := positiveToo second rfl
            omega
          rw [equal]

/-- Where no disk has the name of another one with digits behind it, two block devices have the
same name exactly if they are the same disk, or the partitions of one disk with the same number. -/
theorem gendiskName_eq_iff (memory : BlockMemory) (unambiguous : memory.Unambiguous)
    (numbered : forall part number, memory.partno.read part = some number -> 0 ≤ number)
    (one two : BlockValue) (first second : PyString) (named : memory.gendiskName one = .ok first)
    (namedToo : memory.gendiskName two = .ok second) :
    first = second <-> memory.identity one = memory.identity two := by
  rcases gendiskName_ok named with ⟨disk, number, name, identified, stored, read, shape⟩
  rcases gendiskName_ok namedToo with ⟨other, numberToo, nameToo, identifiedToo, storedToo, readToo, shapeToo⟩
  have positive : forall part, number = some part -> 0 ≤ part := by
    intro part same
    rcases read part same with ⟨address, found⟩
    exact numbered address part found
  have positiveToo : forall part, numberToo = some part -> 0 ≤ part := by
    intro part same
    rcases readToo part same with ⟨address, found⟩
    exact numbered address part found
  rw [identified, identifiedToo, shape, shapeToo, Except.ok.injEq, Prod.mk.injEq]
  constructor
  · intro same
    have equal : disk = other := by
      rcases List.append_eq_append_iff.mp same with ⟨tail, longer, rest⟩ | ⟨tail, longer, rest⟩
      · rw [longer] at storedToo
        refine (unambiguous other disk name tail storedToo stored fun digit member => ?_).symm
        refine suffix_digits positive (?_ : digit ∈ _)
        rw [rest]
        exact List.mem_append_left _ member
      · rw [longer] at stored
        refine unambiguous disk other nameToo tail stored storedToo fun digit member => ?_
        refine suffix_digits positiveToo (?_ : digit ∈ _)
        rw [rest]
        exact List.mem_append_left _ member
    subst equal
    cases stored.symm.trans storedToo
    exact ⟨rfl, suffix_inj positive positiveToo (List.append_cancel_left same)⟩
  · rintro ⟨rfl, rfl⟩
    cases stored.symm.trans storedToo
    rfl

end BlockMemory

/-- Two disks and a partition of the first.  The devices of the disks are at 1008 and 2008, that
of the partition is at 3016. -/
def smallBlock : BlockMemory where
  lists := .empty
  nKlist := .ofTable []
  kListOffset := 0
  nNodeOffset := 0
  subsysPrivate := .ofTable []
  klistDevicesOffset := 0
  classIsPrivate := false
  knodeClassOffset := 0
  device := .ofTable []
  deviceType := .ofTable [(1008, 16), (2008, 16), (3016, 24)]
  blockClass := 8
  diskType := 16
  partType := 24
  part0DevOffset := some 8
  bdDeviceOffset := 0
  partDevOffset := some 16
  bdDisk := .ofTable []
  parent := .ofTable [(3016, 1008)]
  diskName := .ofTable [(1000, some "sda".toList), (2000, some "sdb".toList)]
  partno := .ofTable [(3000, 1)]

theorem smallBlock_unambiguous : smallBlock.Unambiguous := by
  have names : forall disk name, smallBlock.diskName.read disk = some (some name) ->
      (disk = 1000 ∧ name = "sda".toList) ∨ (disk = 2000 ∧ name = "sdb".toList) := by
    intro disk name found
    have member := MemoryImage.mem_of_ofTable found
    simpa only [List.mem_cons, List.not_mem_nil, or_false, Prod.mk.injEq, Option.some.injEq] using member
  intro one two name tail longer found _
  rcases names two name found with ⟨rfl, rfl⟩ | ⟨rfl, rfl⟩
  · rcases names one _ longer with ⟨rfl, _⟩ | ⟨_, same⟩
    · rfl
    · exact False.elim (absurd (congrArg (List.take 3) same) (by simp))
  · rcases names one _ longer with ⟨_, same⟩ | ⟨rfl, _⟩
    · exact False.elim (absurd (congrArg (List.take 3) same) (by simp))
    · rfl

theorem gendiskName_eq_iff_small : "sda".toList = "sda1".toList <->
    smallBlock.identity (.disk (.gendisk 1000)) = smallBlock.identity (.hdStruct 3000) :=
  BlockMemory.gendiskName_eq_iff smallBlock smallBlock_unambiguous
    (by
      intro part number found
      have member := MemoryImage.mem_of_ofTable found
      rw [(Prod.mk.inj (List.mem_singleton.mp member)).2]
      decide)
    (.disk (.gendisk 1000)) (.hdStruct 3000) "sda".toList "sda1".toList rfl rfl

end Subsystem
end CrashPython

import CrashPython.Library.Reads
import CrashPython.Library.Tally
import CrashPython.Types.Zone

namespace CrashPython
namespace Commands

open Library Types

/-!
# The statistics of `crash/commands/kmem.py`

`kmem -z` prints the statistics of each zone, and `kmem -V` those of the whole system.  A processor
keeps changes of its own for a zone, and both commands add these to what they print: the first
separately for each zone, the second in one list that is carried through the zones.

The kernel keeps the counters of the system equal to the sums of those of the zones.  The printed
numbers then have the same relation.
-/

/-- Everything that can leave the commands. -/
inductive StatsError where
  | zone (error : ZoneError)
  | delayedAttribute (name : String)
  | newStyleVmstat
  | emptyMax
  | indexError
deriving DecidableEq, Repr

/-- The message of the `CommandError`. -/
def StatsError.commandText : StatsError -> Option String
  | .newStyleVmstat => some "Support for new-style vmstat is unimplemented."
  | _ => none

/-- A printed line. -/
inductive KmemLine where
  | vmStatTitle
  | stat (name : PyString) (total diff : Int)
  | eventTitle
  | event (name : PyString) (value : Int)
  | zone (nid : Int) (zid address : Nat) (name : PyString)
  | unpopulated
  | blank
  | check (line : ZoneLine)
deriving DecidableEq, Repr

/-- The text of a printed line.  The names of each list are as wide as the longest one. -/
def KmemLine.text (statWidth eventWidth : Nat) : KmemLine -> String
  | .vmStatTitle => "  VM_STAT:"
  | .stat name total diff =>
      String.ofList (PyString.padLeft ' ' statWidth name) ++ ": " ++ toString total ++ " (" ++ toString diff ++ ")"
  | .eventTitle => "  VM_EVENT_STATES:"
  | .event name value => String.ofList (PyString.padLeft ' ' eventWidth name) ++ ": " ++ toString value
  | .zone nid zid address name =>
      "NODE: " ++ toString nid ++ "  ZONE: " ++ toString zid ++ "  ADDR: " ++
        String.ofList (PyString.digits 16 address) ++ "  NAME: \"" ++ String.ofList name ++ "\""
  | .unpopulated => "  [unpopulated]"
  | .blank => ""
  | .check line => line.text

/-- The attributes of class `VmStat`. -/
structure VmStat where
  nrStatItems : Int := -1
  nrEventItems : Int := -1
  vmStatNames : List PyString := []
  vmEventNames : List PyString := []
deriving DecidableEq, Repr

/-- The nodes and zones of a target, and its counters.  There is no symbol `vm_stat` in newer
kernels. -/
structure KmemMemory extends ZoneMemory where
  vmStatClass : VmStat
  nidsPossible : List Nat
  nodeData : Nat -> Except GdbError Nat
  nodeZonesOffset : Nat
  zoneSizeof : Nat
  nrZones : Nat
  zoneAt : Nat -> Nat -> Except GdbError Zone
  vmStat : Option (Nat -> Except GdbError Int)
  vmEventStates : Nat -> Except GdbError (Nat -> Except GdbError Int)

/-- A read, with the exception of gdb. -/
def gdbRead {Value : Type} : Except GdbError Value -> Except StatsError Value
  | .error error => .error (.zone (.gdb error))
  | .ok value => .ok value

/-- The numbers `range(0, nr)`.  A number of items that was not found is negative. -/
def itemRange (nr : Int) : List Nat :=
  List.range nr.toNat

/-- The loops that add the numbers of the processors to those in a list. -/
def accumulate (cpus : List Nat) (read : Nat -> Except GdbError (Nat -> Except GdbError Int)) (nr : Int)
    (start : List Int) : Except StatsError (List Int) :=
  cpus.foldlM (fun numbers cpu => do
    let values ← gdbRead (read cpu)
    (itemRange nr).foldlM (fun numbers item => do
      let value ← gdbRead (values item)
      return numbers.modify item fun number => number + value) numbers) start

namespace KmemMemory

variable (memory : KmemMemory) (zone : Zone)

/-- `[0] * VmStat.nr_stat_items`. -/
def zeros : List Int :=
  List.replicate memory.vmStatClass.nrStatItems.toNat 0

/-- `get_vmstat`. -/
def getVmstat : Except StatsError (List Int) :=
  (itemRange memory.vmStatClass.nrStatItems).mapM fun item => gdbRead (zone.vmStat item)

/-- `add_vmstat_diffs`. -/
def addVmstatDiffs (diffs : List Int) : Except StatsError (List Int) :=
  accumulate memory.cpus.cpusOnline (fun cpu => (zone.pageset cpu).map PerCpuPageset.vmStatDiff)
    memory.vmStatClass.nrStatItems diffs

/-- `get_vmstat_diffs`. -/
def getVmstatDiffs : Except StatsError (List Int) :=
  memory.addVmstatDiffs zone memory.zeros

/-- `VmStat.get_events`. -/
def getEvents : Except StatsError (List Int) :=
  accumulate memory.cpus.cpusOnline memory.vmEventStates memory.vmStatClass.nrEventItems
    (List.replicate memory.vmStatClass.nrEventItems.toNat 0)

/-- `Node.for_each_zone`. -/
def forEachZoneOf (node : Nat) : Run Zone StatsError :=
  (⟨List.range memory.nrZones, .completed⟩ : Run Nat StatsError).forEach id fun index =>
    Run.whenRead (gdbRead (memory.zoneAt (node + memory.nodeZonesOffset + index * memory.zoneSizeof) index))
      fun zone => ⟨[zone], .completed⟩

/-- `for_each_zone`, over `for_each_node`. -/
def forEachZone : Run Zone StatsError :=
  if memory.nidsPossible = [] then ⟨[], .raised (.delayedAttribute "node_states")⟩
  else (⟨memory.nidsPossible, .completed⟩ : Run Nat StatsError).forEach id fun nid =>
    Run.whenRead (gdbRead (memory.nodeData nid)) memory.forEachZoneOf

/-- `for_each_populated_zone`. -/
def forEachPopulatedZone : Run Zone StatsError :=
  memory.forEachZone.forEach id fun zone =>
    Run.whenRead (gdbRead zone.presentPages) fun present =>
      ⟨if present ≠ 0 then [zone] else [], .completed⟩

/-- The body of the loop of `__print_vmstat`. -/
def statLine (vmstat diffs : List Int) (item : Nat) : Run KmemLine StatsError :=
  match memory.vmStatClass.vmStatNames[item]?, (List.zipWith (· + ·) vmstat diffs)[item]?, diffs[item]? with
  | some name, some total, some diff => ⟨[.stat name total diff], .completed⟩
  | _, _, _ => ⟨[], .raised .indexError⟩

/-- `__print_vmstat`. -/
def printVmstat (vmstat diffs : List Int) : Run KmemLine StatsError :=
  if memory.vmStatClass.vmStatNames = [] then ⟨[], .raised .emptyMax⟩
  else (⟨itemRange memory.vmStatClass.nrStatItems, .completed⟩ : Run Nat StatsError).forEach id
    (memory.statLine vmstat diffs)

/-- The second part of `print_vmstats`. -/
def printEvents : Run KmemLine StatsError :=
  Run.after [.blank, .eventTitle] (Run.whenRead memory.getEvents fun events =>
    if memory.vmStatClass.vmEventNames = [] then ⟨[], .raised .emptyMax⟩
    else ⟨(memory.vmStatClass.vmEventNames.zip events).map fun line => .event line.1 line.2, .completed⟩)

/-- `print_vmstats`. -/
def printVmstats : Run KmemLine StatsError :=
  match memory.vmStat with
  | none => ⟨[], .raised .newStyleVmstat⟩
  | some counter =>
      Run.after [.vmStatTitle] (Run.whenRead
        ((itemRange memory.vmStatClass.nrStatItems).mapM fun item => gdbRead (counter item)) fun stats =>
          Run.whenRead (memory.forEachPopulatedZone.folded (fun diffs zone => memory.addVmstatDiffs zone diffs)
            memory.zeros) fun diffs =>
              (memory.printVmstat stats diffs).followedBy memory.printEvents)

/-- The lines of `check_free_pages`. -/
def checkLines : Run KmemLine StatsError :=
  ⟨(memory.checkFreePages zone).events.map .check, (memory.checkFreePages zone).ending.map .zone⟩

/-- The body of the loop of `print_zones`. -/
def printZone : Run KmemLine StatsError :=
  Run.whenRead (gdbRead zone.name) fun name =>
    Run.after [.zone zone.nid zone.zid zone.address name] (Run.whenRead (gdbRead zone.presentPages)
      fun present =>
        if present = 0 then ⟨[.unpopulated, .blank], .completed⟩
        else Run.after [.vmStatTitle] (Run.whenRead (memory.getVmstat zone) fun vmstat =>
          Run.whenRead (memory.getVmstatDiffs zone) fun diffs =>
            (memory.printVmstat vmstat diffs).followedBy (Run.after [.blank] (memory.checkLines zone))))

/-- `print_zones`. -/
def printZones : Run KmemLine StatsError :=
  memory.forEachZone.forEach id memory.printZone

variable {memory zone}

/-- The name and the numbers of a line about an item. -/
def statOf : KmemLine -> Option (PyString × Int × Int)
  | .stat name total diff => some (name, total, diff)
  | _ => none

/-- The value that a read has, and zero for one that fails. -/
def amountOf : Except GdbError Int -> Int
  | .error _ => 0
  | .ok value => value

/-- What one processor adds to an item. -/
def amountAt (values : Except GdbError (Nat -> Except GdbError Int)) (item : Nat) : Int :=
  match values with
  | .error _ => 0
  | .ok values => amountOf (values item)

theorem gdbRead_ok {Value : Type} {read : Except GdbError Value} {value : Value}
    (found : gdbRead read = .ok value) : read = .ok value := by
  cases read with
  | error error => cases found
  | ok other =>
      cases found
      rfl

/-- Loops over the processors that go through have read every item of every processor. -/
theorem accumulate_reads {cpus : List Nat} {read : Nat -> Except GdbError (Nat -> Except GdbError Int)}
    {nr : Int} {start final : List Int} (ran : accumulate cpus read nr start = .ok final) {cpu item : Nat}
    (member : cpu ∈ cpus) (inside : item < nr.toNat) :
    Exists fun values : Nat -> Except GdbError Int =>
      read cpu = .ok values ∧ values item = .ok (amountAt (read cpu) item) := by
  rcases found_of_foldlM ran cpu member with ⟨_, _, step⟩
  rcases except_bind_ok.mp step with ⟨values, found, inner⟩
  rcases found_of_foldlM inner item (List.mem_range.mpr inside) with ⟨_, _, round⟩
  rcases except_bind_ok.mp round with ⟨value, known, _⟩
  have amount : amountAt (read cpu) item = value := by
    rw [gdbRead_ok found]
    exact congrArg amountOf (gdbRead_ok known)
  rw [amount]
  exact ⟨values, gdbRead_ok found, gdbRead_ok known⟩

/-- The loops over the processors add to every item what the processors have for it. -/
theorem accumulate_adds {cpus : List Nat} {read : Nat -> Except GdbError (Nat -> Except GdbError Int)}
    {nr : Int} {start final : List Int} (ran : accumulate cpus read nr start = .ok final) {item : Nat}
    (inside : item < nr.toNat) :
    final[item]? = (start[item]?).map (· + (cpus.map fun cpu => amountAt (read cpu) item).sum) := by
  refine foldlM_adds (fun numbers : List Int => numbers[item]?) _ ?_ ran
  intro cpu _ before after step
  rcases except_bind_ok.mp step with ⟨values, found, inner⟩
  have added := foldlM_adds (fun numbers : List Int => numbers[item]?)
    (fun other => if other = item then amountOf (values other) else 0) ?_ inner
  · rw [itemRange, sum_ite_range inside fun other => amountOf (values other)] at added
    rw [gdbRead_ok found]
    exact added
  · intro other _ numbers changed round
    rcases except_bind_ok.mp round with ⟨value, known, same⟩
    cases same
    change (numbers.modify other _)[item]? = (numbers[item]?).map (· + if other = item then _ else 0)
    rw [gdbRead_ok known, List.getElem?_modify]
    cases numbers[item]? with
    | none => rfl
    | some number =>
        by_cases here : other = item
        · rw [if_pos here]
          exact congrArg some (if_pos here)
        · rw [if_neg here, Option.map_some, Int.add_zero]
          exact congrArg some (if_neg here)

/-- A list of statistics that is printed has a line for each item. -/
theorem printVmstat_lines {vmstat diffs : List Int}
    (completed : (memory.printVmstat vmstat diffs).ending = .completed) {item : Nat}
    (inside : item < memory.vmStatClass.nrStatItems.toNat) :
    Exists fun name : PyString => memory.vmStatClass.vmStatNames[item]? = some name ∧
      Exists fun count : Int => Exists fun diff : Int =>
        vmstat[item]? = some count ∧ diffs[item]? = some diff ∧
          ((memory.printVmstat vmstat diffs).events.filterMap statOf)[item]? = some (name, count + diff, diff) := by
  rw [printVmstat] at completed ⊢
  by_cases nameless : memory.vmStatClass.vmStatNames = []
  · rw [if_pos nameless] at completed
    cases completed
  · rw [if_neg nameless] at completed ⊢
    have entries : forall other, other ∈ itemRange memory.vmStatClass.nrStatItems ->
        Exists fun name : PyString => memory.vmStatClass.vmStatNames[other]? = some name ∧
          Exists fun count : Int => Exists fun diff : Int =>
            vmstat[other]? = some count ∧ diffs[other]? = some diff := by
      intro other member
      have ended := (Run.forEach_completed completed).2 other member
      rw [statLine, List.getElem?_zipWith] at ended
      cases named : memory.vmStatClass.vmStatNames[other]? with
      | none =>
          rw [named] at ended
          cases ended
      | some name =>
          cases counted : vmstat[other]? with
          | none =>
              rw [named, counted] at ended
              cases ended
          | some count =>
              cases changed : diffs[other]? with
              | none =>
                  rw [named, counted, changed] at ended
                  cases ended
              | some diff => exact ⟨name, rfl, count, diff, rfl, rfl⟩
    have emitted : forall other, other ∈ itemRange memory.vmStatClass.nrStatItems ->
        memory.statLine vmstat diffs other = ⟨[.stat ((memory.vmStatClass.vmStatNames[other]?).getD [])
          ((vmstat[other]?).getD 0 + (diffs[other]?).getD 0) ((diffs[other]?).getD 0)], .completed⟩ := by
      intro other member
      rcases entries other member with ⟨name, named, count, diff, counted, changed⟩
      rw [statLine, List.getElem?_zipWith, named, counted, changed]
      rfl
    rcases entries item (List.mem_range.mpr inside) with ⟨name, named, count, diff, counted, changed⟩
    refine ⟨name, named, count, diff, counted, changed, ?_⟩
    rw [Run.forEach_emits emitted, List.filterMap_flatMap]
    change ((List.range _).flatMap fun other => [_])[item]? = _
    rw [← List.map_eq_flatMap, List.getElem?_map, List.getElem?_range inside, Option.map_some, named, counted,
      changed]
    rfl

/-- The change that a processor keeps for an item of a zone. -/
def changeOf (item : Nat) (zone : Zone) (cpu : Nat) : Int :=
  amountAt ((zone.pageset cpu).map PerCpuPageset.vmStatDiff) item

/-- The difference of an item of a zone: the changes of the processors. -/
def diffAt (memory : KmemMemory) (item : Nat) (zone : Zone) : Int :=
  (memory.cpus.cpusOnline.map (changeOf item zone)).sum

theorem addVmstatDiffs_adds {start final : List Int} (ran : memory.addVmstatDiffs zone start = .ok final)
    {item : Nat} (inside : item < memory.vmStatClass.nrStatItems.toNat) :
    final[item]? = (start[item]?).map (· + memory.diffAt item zone) :=
  accumulate_adds ran inside

/-- A zone whose changes have been added up has a readable one for each processor. -/
theorem addVmstatDiffs_reads {start final : List Int} (ran : memory.addVmstatDiffs zone start = .ok final)
    {cpu item : Nat} (member : cpu ∈ memory.cpus.cpusOnline)
    (inside : item < memory.vmStatClass.nrStatItems.toNat) :
    Exists fun pageset : PerCpuPageset =>
      zone.pageset cpu = .ok pageset ∧ pageset.vmStatDiff item = .ok (changeOf item zone cpu) := by
  rcases accumulate_reads ran member inside with ⟨values, found, known⟩
  cases there : zone.pageset cpu with
  | error error =>
      rw [there] at found
      cases found
  | ok pageset =>
      rw [there] at found
      cases found
      exact ⟨pageset, rfl, known⟩

theorem zeros_getElem? {item : Nat} (inside : item < memory.vmStatClass.nrStatItems.toNat) :
    memory.zeros[item]? = some 0 := by
  rw [zeros, List.getElem?_replicate, if_pos inside]

/-- The zones that are populated are zones, and they have pages. -/
theorem mem_forEachPopulatedZone (member : zone ∈ memory.forEachPopulatedZone.events)
    (completed : memory.forEachPopulatedZone.ending = .completed) :
    zone ∈ memory.forEachZone.events ∧
      Exists fun present : Nat => zone.presentPages = .ok present ∧ present ≠ 0 := by
  have bodies := Run.forEach_completed completed
  rw [forEachPopulatedZone, Run.forEach] at member
  rcases Run.mem_followedBy member with within | outside
  · rcases Run.mem_chain within with ⟨run, listed, emits⟩
    rcases List.mem_map.mp listed with ⟨other, walked, same⟩
    subst same
    rcases Run.whenRead_completed (bodies.2 other walked) with ⟨present, read, shape, _⟩
    rw [shape] at emits
    by_cases populated : present ≠ 0
    · rw [if_pos populated] at emits
      rw [List.mem_singleton.mp emits]
      exact ⟨walked, present, gdbRead_ok read, populated⟩
    · rw [if_neg populated] at emits
      exact False.elim (List.not_mem_nil emits)
  · exact False.elim (List.not_mem_nil outside)

/-- What is printed for a populated zone. -/
theorem printZone_lines {present : Nat} (known : zone.presentPages = .ok present) (populated : present ≠ 0)
    (completed : (memory.printZone zone).ending = .completed) {item : Nat}
    (inside : item < memory.vmStatClass.nrStatItems.toNat) :
    Exists fun name : PyString => memory.vmStatClass.vmStatNames[item]? = some name ∧
      Exists fun count : Int => zone.vmStat item = .ok count ∧
        (forall cpu, cpu ∈ memory.cpus.cpusOnline -> Exists fun pageset : PerCpuPageset =>
          zone.pageset cpu = .ok pageset ∧ pageset.vmStatDiff item = .ok (changeOf item zone cpu)) ∧
        ((memory.printZone zone).events.filterMap statOf)[item]? =
          some (name, count + memory.diffAt item zone, memory.diffAt item zone) := by
  rcases Run.whenRead_completed completed with ⟨name, _, shape, first⟩
  rcases Run.whenRead_completed first with ⟨pages, read, inner, second⟩
  cases (gdbRead_ok read).symm.trans known
  rw [if_neg populated] at second
  rcases Run.whenRead_completed second with ⟨vmstat, counted, counts, third⟩
  rcases Run.whenRead_completed third with ⟨diffs, changed, changes, last⟩
  rcases Run.followedBy_completed last with ⟨printed, _⟩
  rcases printVmstat_lines printed inside with ⟨title, named, count, diff, here, there, line⟩
  refine ⟨title, named, ?_⟩
  have place : (itemRange memory.vmStatClass.nrStatItems)[item]? = some item := List.getElem?_range inside
  rcases mapM_getElem? counted place with ⟨value, found, same⟩
  cases here.symm.trans same
  have added := addVmstatDiffs_adds changed inside
  rw [zeros_getElem? inside, there, Option.map_some, Int.zero_add] at added
  cases added
  refine ⟨count, gdbRead_ok found, fun cpu member => addVmstatDiffs_reads changed member inside, ?_⟩
  have silent : (memory.checkLines zone).events.filterMap statOf = [] := by
    rw [checkLines, List.filterMap_map]
    exact List.filterMap_eq_nil_iff.mpr fun line _ => rfl
  have events : (memory.printZone zone).events.filterMap statOf =
      (memory.printVmstat vmstat diffs).events.filterMap statOf := by
    rw [printZone, shape, Run.filterMap_after, inner, if_neg populated, Run.filterMap_after, counts, changes,
      Run.followedBy_of_completed printed, Run.filterMap_after, Run.filterMap_after, silent]
    exact List.append_nil _
  rw [events]
  exact line

/-- No line about the events is one of the table. -/
theorem filterMap_printEvents (memory : KmemMemory) : memory.printEvents.events.filterMap statOf = [] := by
  rw [printEvents, Run.filterMap_after]
  cases memory.getEvents with
  | error error => rfl
  | ok values =>
      change ([] ++ (ite _ _ _ : Run KmemLine StatsError).events.filterMap statOf) = []
      by_cases nameless : memory.vmStatClass.vmEventNames = []
      · rw [if_pos nameless]
        rfl
      · rw [if_neg nameless, List.nil_append]
        refine List.filterMap_eq_nil_iff.mpr fun line member => ?_
        rcases List.mem_map.mp member with ⟨pair, _, same⟩
        rw [← same]
        rfl

end KmemMemory

/-- A system of one node with two zones that are counted by two processors. -/
def smallKmem : KmemMemory where
  lists := .empty
  pages := fun _ => { flags := .ok 0 }
  pageClass := { pgSlab := 0, pgLru := 0 }
  lruOffset := 0
  cpus := { cpusOnline := [0, 1] }
  vmStatClass := { nrStatItems := 1, vmStatNames := ["NR_FREE_PAGES".toList], nrEventItems := 1,
                   vmEventNames := ["PGPGIN".toList] }
  nidsPossible := [0]
  nodeData := fun _ => .ok 4096
  nodeZonesOffset := 0
  zoneSizeof := 1024
  nrZones := 2
  zoneAt := fun address zid => .ok {
    address := address, nid := 0, zid := zid, name := .ok "Normal".toList, presentPages := .ok 8
    vmStat := fun _ => .ok (10 * (zid + 1)), freeArea := []
    pageset := fun cpu => .ok { pcp := { address := 0, lists := [], expected := .ok 0 }
                                vmStatDiff := fun _ => .ok (cpu - 3 * zid) } }
  vmStat := some fun _ => .ok 30
  vmEventStates := fun cpu => .ok fun _ => .ok cpu

end Commands
end CrashPython

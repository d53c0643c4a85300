import CrashPython.Library.History
import CrashPython.Types.Cpu

namespace CrashPython
namespace Types

open Library

/-!
# The static percpu ranges of `crash/types/percpu.py`

`PerCPUState` has its static ranges from two symbols, and its numbers of processors
from the possible mask or, where nothing better is known, from the length of
`__per_cpu_offset`.  All of this arrives through callbacks.  A callback that misses
something is meant to leave it to a later one.

`setup_per_cpu_size` goes on without a size when one of its two symbols is missing.
And the callback of the possible mask does not count again, so that a mask that comes
last is not seen.
-/

/-- The attributes of the class that these callbacks fill in. -/
structure PerCPUState where
  staticRanges : List (Int × Int) := []
  lastCpu : Int := -1
  nrCpus : Int := 0
deriving DecidableEq, Repr

/-- The exceptions that can leave a callback. -/
inductive SetupError where
  | unboundLocal (name : String)
  | bitmap (error : BitmapError)
deriving DecidableEq, Repr

/-- What the callbacks can see: the two minimal symbols as far as they are resolved,
the processors, and the state. -/
structure PercpuSetup where
  perCpuStart : Option Int := none
  perCpuEnd : Option Int := none
  cpus : TypesCPUClass := {}
  state : PerCPUState := {}
deriving DecidableEq, Repr

/-- What the callbacks get from the kernel in the end. -/
structure PercpuValues where
  perCpuStart : Int
  perCpuEnd : Int
  possible : Bitmap
  perCpuOffsets : Nat

/-- The callbacks, and the two symbols becoming resolved. -/
inductive SetupEvent where
  | startResolved
  | endResolved
  | sizeForStart
  | sizeForEnd
  | possibleMask
  | nrCpus
deriving DecidableEq, Repr

/-- Set an item of the dictionary of ranges. -/
def setRange (start size : Int) : List (Int × Int) -> List (Int × Int)
  | [] => [(start, size)]
  | entry :: rest =>
      if entry.1 = start then (start, size) :: rest else entry :: setRange start size rest

/-- The static ranges with those of the two symbols. -/
def addStaticRanges (start size : Int) (ranges : List (Int × Int)) : List (Int × Int) :=
  let ranges := setRange 0 size ranges
  if start ≠ 0 then setRange start size ranges else ranges

namespace PercpuSetup

/-- The end of `setup_per_cpu_size`, where a missing mask is passed over. -/
def countCpus (setup : PercpuSetup) : PercpuSetup :=
  match setup.cpus.highestPossibleCpuNr with
  | .error _ => setup
  | .ok last => { setup with state := { setup.state with lastCpu := last, nrCpus := last + 1 } }

/-- `setup_per_cpu_size`.  A missing symbol is passed over, and then the variable `size`
is used all the same. -/
def setupPerCpuSize (setup : PercpuSetup) : Except SetupError PercpuSetup :=
  match setup.perCpuEnd, setup.perCpuStart with
  | some stop, some start =>
      let ranges := addStaticRanges start (stop - start) setup.state.staticRanges
      .ok (countCpus { setup with state := { setup.state with staticRanges := ranges } })
  | _, _ => .error (.unboundLocal "size")

/-- `setup_nr_cpus`, with the length of `__per_cpu_offset`. -/
def setupNrCpus (perCpuOffsets : Nat) (setup : PercpuSetup) : PercpuSetup :=
  let nrCpus := if setup.state.nrCpus = 0 then (perCpuOffsets : Int) else setup.state.nrCpus
  let lastCpu := if setup.state.lastCpu = -1 then nrCpus else setup.state.lastCpu
  { setup with state := { setup.state with nrCpus := nrCpus, lastCpu := lastCpu } }

/-- One event. -/
def step (values : PercpuValues) (setup : PercpuSetup) : SetupEvent -> Except SetupError PercpuSetup
  | .startResolved => .ok { setup with perCpuStart := some values.perCpuStart }
  | .endResolved => .ok { setup with perCpuEnd := some values.perCpuEnd }
  | .sizeForStart => setup.setupPerCpuSize
  | .sizeForEnd => setup.setupPerCpuSize
  | .possibleMask =>
      match setup.cpus.setupPossibleMask values.possible with
      | .error error => .error (.bitmap error)
      | .ok cpus => .ok { setup with cpus := cpus }
  | .nrCpus => .ok (setup.setupNrCpus values.perCpuOffsets)

/-- The events in an order. -/
def run (values : PercpuValues) (events : List SetupEvent) : Except SetupError PercpuSetup :=
  events.foldlM (step values) {}

end PercpuSetup

/-- Whether the event is a call of `setup_per_cpu_size`. -/
def SetupEvent.CallsSize (event : SetupEvent) : Prop :=
  event = .sizeForStart ∨ event = .sizeForEnd

instance (event : SetupEvent) : Decidable event.CallsSize :=
  inferInstanceAs (Decidable (event = .sizeForStart ∨ event = .sizeForEnd))

/-- A callback of a symbol comes after the symbol. -/
def OwnSymbol (before : List SetupEvent) (event : SetupEvent) : Prop :=
  (event = .sizeForStart -> .startResolved ∈ before) ∧
    (event = .sizeForEnd -> .endResolved ∈ before)

instance : DecidableRel OwnSymbol := fun before event =>
  inferInstanceAs (Decidable ((event = .sizeForStart -> .startResolved ∈ before) ∧
    (event = .sizeForEnd -> .endResolved ∈ before)))

/-- An order of the events, where each callback of a minimal symbol comes any time
after the symbol is resolved. -/
structure SetupOrder where
  events : List SetupEvent
  once : events.Perm
    [.startResolved, .endResolved, .sizeForStart, .sizeForEnd, .possibleMask, .nrCpus]
  ownSymbol : AllReady OwnSymbol events

/-! ## Histories -/

/-- A call of `setup_per_cpu_size` is ready when both symbols are resolved. -/
def Resolved (before : List SetupEvent) (event : SetupEvent) : Prop :=
  event.CallsSize -> .startResolved ∈ before ∧ .endResolved ∈ before

instance : DecidableRel Resolved := fun before event =>
  inferInstanceAs
    (Decidable (event.CallsSize -> .startResolved ∈ before ∧ .endResolved ∈ before))

/-- A call of `setup_per_cpu_size` that comes after the possible mask. -/
def SeesMask (before : List SetupEvent) (event : SetupEvent) : Prop :=
  event.CallsSize ∧ .possibleMask ∈ before

instance : DecidableRel SeesMask := fun before event =>
  inferInstanceAs (Decidable (event.CallsSize ∧ .possibleMask ∈ before))

/-- The static ranges in the end. -/
def PercpuValues.staticRanges (values : PercpuValues) : List (Int × Int) :=
  addStaticRanges values.perCpuStart (values.perCpuEnd - values.perCpuStart) []

theorem addStaticRanges_again (start size : Int) :
    addStaticRanges start size (addStaticRanges start size []) = addStaticRanges start size [] := by
  simp only [addStaticRanges]
  by_cases zero : start = 0
  · simp [zero, setRange]
  · simp [zero, Ne.symm zero, setRange]

/-- The numbers of processors that are known without the possible mask. -/
def countedOffsets (values : PercpuValues) (history : List SetupEvent) : Int × Int :=
  if .nrCpus ∈ history then (values.perCpuOffsets, values.perCpuOffsets) else (-1, 0)

/-- The last processor and the number of processors after some events. -/
def counted (values : PercpuValues) (possible : List Nat) (history : List SetupEvent) :
    Int × Int :=
  match possible.getLast? with
  | some last =>
      if SomeTime SeesMask history then (last, last + 1) else countedOffsets values history
  | none => countedOffsets values history

/-- What can be seen after some events, none of which has raised an exception. -/
def setupAfter (values : PercpuValues) (possible : List Nat)
    (history : List SetupEvent) : PercpuSetup where
  perCpuStart := if .startResolved ∈ history then some values.perCpuStart else none
  perCpuEnd := if .endResolved ∈ history then some values.perCpuEnd else none
  cpus := { cpusPossible := if .possibleMask ∈ history then possible else [] }
  state :=
    { staticRanges :=
        if .sizeForStart ∈ history ∨ .sizeForEnd ∈ history then values.staticRanges else []
      lastCpu := (counted values possible history).1
      nrCpus := (counted values possible history).2 }

/-- Events other than calls of `setup_per_cpu_size` do not see the mask. -/
theorem seesMask_concat {history : List SetupEvent} {event : SetupEvent} (other : ¬ event.CallsSize) :
    SomeTime SeesMask (history ++ [event]) <-> SomeTime SeesMask history := by
  rw [someTime_concat]
  exact or_iff_left fun sees => other sees.1

theorem setupAfter_nil (values : PercpuValues) (possible : List Nat) :
    setupAfter values possible [] = {} := by
  have uncounted : counted values possible [] = (-1, 0) := by
    simp only [counted, countedOffsets]
    cases possible.getLast? with
    | none => rfl
    | some last => simp [someTime_nil]
  simp only [setupAfter]
  rw [uncounted]
  simp

/-- Only calls of `setup_per_cpu_size` and `setup_nr_cpus` change the numbers. -/
theorem counted_concat {values : PercpuValues} {possible : List Nat} {history : List SetupEvent}
    {event : SetupEvent} (other : ¬ event.CallsSize) (uncounted : event ≠ .nrCpus) :
    counted values possible (history ++ [event]) = counted values possible history := by
  have offsets : countedOffsets values (history ++ [event]) = countedOffsets values history := by
    simp only [countedOffsets]
    simp only [List.mem_append, List.mem_singleton, or_iff_left uncounted.symm]
  simp only [counted]
  cases possible.getLast? with
  | none => exact offsets
  | some last =>
      exact if_congr (seesMask_concat other) rfl offsets

/-- A call of `setup_per_cpu_size` counts the processors of the mask, if that is there. -/
theorem counted_size {values : PercpuValues} {possible : List Nat} {history : List SetupEvent}
    {event : SetupEvent} (calls : event.CallsSize) :
    counted values possible (history ++ [event]) =
      match (if .possibleMask ∈ history then possible else []).getLast? with
      | some last => ((last : Int), (last : Int) + 1)
      | none => counted values possible history := by
  have offsets : countedOffsets values (history ++ [event]) = countedOffsets values history := by
    simp only [countedOffsets]
    rcases calls with rfl | rfl <;> simp
  have sees : SomeTime SeesMask (history ++ [event]) <->
      SomeTime SeesMask history ∨ .possibleMask ∈ history := by
    rw [someTime_concat]
    exact or_congr_right (and_iff_right calls)
  by_cases mask : .possibleMask ∈ history
  · rw [if_pos mask]
    simp only [counted]
    cases possible.getLast? with
    | none => exact offsets
    | some last => exact if_pos (sees.mpr (Or.inr mask))
  · rw [if_neg mask]
    simp only [counted]
    cases possible.getLast? with
    | none => exact offsets
    | some last =>
              exact if_congr (sees.trans (or_iff_left mask)) rfl offsets

/-- `setup_nr_cpus` fills in what is not known yet. -/
theorem counted_nrCpus (values : PercpuValues) (possible : List Nat) (history : List SetupEvent) :
    let before := counted values possible history
    let nrCpus := if before.2 = 0 then (values.perCpuOffsets : Int) else before.2
    counted values possible (history ++ [.nrCpus]) =
      (if before.1 = -1 then nrCpus else before.1, nrCpus) := by
  have offsets : countedOffsets values (history ++ [.nrCpus]) =
      ((values.perCpuOffsets : Int), (values.perCpuOffsets : Int)) := by
    simp only [countedOffsets]
    rw [if_pos (List.mem_append_right _ (List.mem_singleton_self _))]
  have fallback : (let before := countedOffsets values history
      let nrCpus := if before.2 = 0 then (values.perCpuOffsets : Int) else before.2
      countedOffsets values (history ++ [.nrCpus]) =
        (if before.1 = -1 then nrCpus else before.1, nrCpus)) := by
    rw [offsets]
    unfold countedOffsets
    by_cases counted : .nrCpus ∈ history
    · rw [if_pos counted]
      have known : (values.perCpuOffsets : Int) ≠ -1 := by omega
      simp [known]
    · rw [if_neg counted]
      simp
  unfold counted
  cases possible.getLast? with
  | none => exact fallback
  | some last =>
      by_cases sees : SomeTime SeesMask history
      · have known : (last : Int) + 1 ≠ 0 ∧ (last : Int) ≠ -1 := by omega
        simp [someTime_concat, sees, known.1, known.2]
      · have still : ¬ SomeTime SeesMask (history ++ [.nrCpus]) := by
          rw [seesMask_concat (by decide)]
          exact sees
        simp only [if_neg sees, if_neg still]
        exact fallback

/-- A call of `setup_per_cpu_size` that finds both symbols leaves the state of the longer
history. -/
theorem setupAfter_size {values : PercpuValues} {possible : List Nat} {history : List SetupEvent}
    {event : SetupEvent} (calls : event.CallsSize)
    (resolved : .startResolved ∈ history ∧ .endResolved ∈ history) :
    (setupAfter values possible history).setupPerCpuSize =
      .ok (setupAfter values possible (history ++ [event])) := by
  have start : (setupAfter values possible history).perCpuStart = some values.perCpuStart :=
    if_pos resolved.1
  have stop : (setupAfter values possible history).perCpuEnd = some values.perCpuEnd :=
    if_pos resolved.2
  have ranges : addStaticRanges values.perCpuStart (values.perCpuEnd - values.perCpuStart)
      (setupAfter values possible history).state.staticRanges = values.staticRanges := by
    change addStaticRanges _ _ (if _ then values.staticRanges else []) = _
    split
    · exact addStaticRanges_again _ _
    · rfl
  have kept : .sizeForStart ∈ history ++ [event] ∨ .sizeForEnd ∈ history ++ [event] := by
    rcases calls with rfl | rfl <;> simp
  have mask : .possibleMask ∈ history ++ [event] <-> .possibleMask ∈ history := by
    rcases calls with rfl | rfl <;> simp
  simp only [PercpuSetup.setupPerCpuSize]
  rw [start, stop]
  simp only [ranges]
  congr 1
  simp only [PercpuSetup.countCpus, TypesCPUClass.highestPossibleCpuNr]
  simp only [setupAfter]
  rw [counted_size calls, if_pos kept]
  simp only [mask, List.mem_append, resolved, true_or, if_true]
  cases (if .possibleMask ∈ history then possible else []).getLast? with
  | none => rfl
  | some last => rfl

/-- The state after each history. -/
theorem setup_describes {values : PercpuValues} {possible : List Nat}
    (read : TypesCPUClass.maskBits values.possible = .ok possible) :
    Describes (PercpuSetup.step values) (setupAfter values possible) Resolved where
  proceeds := by
    intro history event ready
    cases event with
    | startResolved =>
        change Except.ok _ = Except.ok _
        unfold setupAfter
        rw [counted_concat (by decide) (by decide)]
        simp
    | endResolved =>
        change Except.ok _ = Except.ok _
        unfold setupAfter
        rw [counted_concat (by decide) (by decide)]
        simp
    | sizeForStart => exact setupAfter_size (Or.inl rfl) (ready (Or.inl rfl))
    | sizeForEnd => exact setupAfter_size (Or.inr rfl) (ready (Or.inr rfl))
    | possibleMask =>
        unfold PercpuSetup.step TypesCPUClass.setupPossibleMask
        rw [read]
        change Except.ok _ = Except.ok _
        unfold setupAfter
        rw [counted_concat (by decide) (by decide)]
        simp
    | nrCpus =>
        change Except.ok _ = Except.ok _
        unfold setupAfter PercpuSetup.setupNrCpus
        rw [counted_nrCpus]
        simp
  fails := by
    intro history event unready
    rcases Classical.not_imp.mp unready with ⟨calls, missing⟩
    have unbound : (setupAfter values possible history).setupPerCpuSize =
        .error (.unboundLocal "size") := by
      unfold PercpuSetup.setupPerCpuSize setupAfter
      by_cases stop : .endResolved ∈ history
      · rw [if_neg fun start => missing ⟨start, stop⟩]
        cases (if .endResolved ∈ history then some values.perCpuEnd else none) with
        | none => rfl
        | some address => rfl
      · rw [if_neg stop]
    rcases calls with rfl | rfl
    · exact ⟨_, unbound⟩
    · exact ⟨_, unbound⟩

/-! ## Every order -/

/-- The state that all orders should come to: the static ranges, and the numbers of the
mask, or those of `__per_cpu_offset` if no processor is in the mask. -/
def PercpuValues.settled (values : PercpuValues) (possible : List Nat) : PerCPUState where
  staticRanges := values.staticRanges
  lastCpu :=
    match possible.getLast? with
    | some last => last
    | none => values.perCpuOffsets
  nrCpus :=
    match possible.getLast? with
    | some last => last + 1
    | none => values.perCpuOffsets

/-- The state after all events in an order. -/
theorem setupAfter_order {values : PercpuValues} {possible : List Nat} (order : SetupOrder) :
    (setupAfter values possible order.events).state = values.settled possible <->
      possible = [] ∨ SomeTime SeesMask order.events := by
  have sizes : .sizeForStart ∈ order.events := order.once.mem_iff.mpr (by decide)
  have nrCpus : .nrCpus ∈ order.events := order.once.mem_iff.mpr (by decide)
  have offsets : countedOffsets values order.events =
      ((values.perCpuOffsets : Int), (values.perCpuOffsets : Int)) := if_pos nrCpus
  simp only [setupAfter, PercpuValues.settled, counted]
  simp only [if_pos (Or.inl sizes : .sizeForStart ∈ order.events ∨ .sizeForEnd ∈ order.events)]
  cases final : possible.getLast? with
  | none =>
      simp [offsets, List.getLast?_eq_none_iff.mp final]
  | some last =>
      have nonempty : possible ≠ [] := by
        rintro rfl
        cases final
      by_cases sees : SomeTime SeesMask order.events
      · simp [sees]
      · simp [sees, offsets, nonempty]
        omega

/-- In which orders the callbacks come to the same state: each call of
`setup_per_cpu_size` comes after both symbols, and one of them after the possible mask,
if there are processors in that. -/
theorem setup_settles_iff {values : PercpuValues} {possible : List Nat}
    (read : TypesCPUClass.maskBits values.possible = .ok possible) (order : SetupOrder) :
    (Exists fun setup : PercpuSetup => PercpuSetup.run values order.events = .ok setup ∧
        setup.state = values.settled possible) <->
      AllReady Resolved order.events ∧ (possible = [] ∨ SomeTime SeesMask order.events) := by
  have result := (setup_describes read).run order.events
  rw [setupAfter_nil] at result
  rw [← setupAfter_order order]
  simp only [PercpuSetup.run]
  constructor
  · rintro ⟨setup, done, settled⟩
    by_cases ready : AllReady Resolved order.events
    · rw [result.1 ready] at done
      cases done
      exact ⟨ready, settled⟩
    · rcases result.2 ready with ⟨error, failed⟩
      rw [failed] at done
      cases done
  · rintro ⟨ready, settled⟩
    exact ⟨_, result.1 ready, settled⟩

/-- A kernel whose percpu section starts at 4096, with two possible processors. -/
def twoPossible : PercpuValues :=
  { perCpuStart := 4096, perCpuEnd := 12288, possible := oneWordMask 3#64, perCpuOffsets := 8 }

theorem twoPossible_read : TypesCPUClass.maskBits twoPossible.possible = .ok [0, 1] :=
  (maskBits_oneWordMask 3#64).trans (congrArg Except.ok (by decide))

/-- The symbols first, and the mask between the two calls of `setup_per_cpu_size`. -/
def maskBetween : SetupOrder where
  events := [.startResolved, .endResolved, .sizeForStart, .nrCpus, .possibleMask, .sizeForEnd]
  once := by decide
  ownSymbol := by decide

theorem setup_settles_iff_maskBetween :
    (Exists fun setup : PercpuSetup =>
      PercpuSetup.run twoPossible maskBetween.events = .ok setup ∧
        setup.state = twoPossible.settled [0, 1]) <->
      AllReady Resolved maskBetween.events ∧
        ([0, 1] = ([] : List Nat) ∨ SomeTime SeesMask maskBetween.events) :=
  setup_settles_iff twoPossible_read maskBetween

/-- The callback of `__per_cpu_start` comes before the other symbol. -/
def sizeEarly : SetupOrder where
  events := [.startResolved, .sizeForStart, .endResolved, .sizeForEnd, .possibleMask, .nrCpus]
  once := by decide
  ownSymbol := by decide

/-- The possible mask comes last. -/
def maskLast : SetupOrder where
  events := [.startResolved, .endResolved, .sizeForStart, .sizeForEnd, .nrCpus, .possibleMask]
  once := by decide
  ownSymbol := by decide

/-- One order raises an exception, and two that do not come to different numbers. -/
theorem setup_depends_on_order :
    PercpuSetup.run twoPossible sizeEarly.events = .error (.unboundLocal "size") ∧
      (Exists fun setup : PercpuSetup =>
        PercpuSetup.run twoPossible maskBetween.events = .ok setup ∧
          setup.state.nrCpus = 2 ∧ setup.state.lastCpu = 1) ∧
      Exists fun setup : PercpuSetup =>
        PercpuSetup.run twoPossible maskLast.events = .ok setup ∧
          setup.state.nrCpus = 8 ∧ setup.state.lastCpu = 8 := by
  have described := setup_describes twoPossible_read
  have between := (described.run maskBetween.events).1 (by decide)
  have last := (described.run maskLast.events).1 (by decide)
  rw [setupAfter_nil] at between last
  exact ⟨rfl, ⟨_, between, by decide⟩, ⟨_, last, by decide⟩⟩

end Types
end CrashPython

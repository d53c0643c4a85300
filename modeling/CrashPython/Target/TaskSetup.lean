import CrashPython.Library.Dict
import CrashPython.Library.Generator
import CrashPython.Library.Reads
import CrashPython.Types.TaskObject

namespace CrashPython
namespace Target

open Library Types

/-!
# Setting up the tasks

When a target is opened, `setup_tasks` of `crash/target/__init__.py` makes a task object for each
thread of gdb.  The address of the task is part of the identifier of its thread, so a thread is
running on a processor if its address is what the run queue of the processor has as its current task.
The task objects are put into the dictionary of `crash/cache/tasks.py` under their process identifiers.

The idle tasks of all processors have the process identifier zero, so of tasks with one identifier
only the last is found in the dictionary.
-/

/-- A gdb thread, with the last part of its identifier. -/
structure InferiorThread where
  num : Nat
  address : Nat
deriving DecidableEq, Repr

/-- What the target finds: the threads, the structure at each address, the current task of each
processor, the value of the symbol for the processor that crashed if there is one, the registers in the
dump, and what the architecture attaches to a thread. -/
structure SetupTarget where
  threads : List InferiorThread
  different : (threads.map InferiorThread.num).Nodup
  types : TaskTypes
  structs : Nat -> TaskStruct
  placed : forall address, (structs address).address = address
  nrCpus : Int
  curr : Nat -> Reading Nat
  crashingCpu : Option (Reading Int)
  cpuRegs : Nat -> Reading (List (PyString × Nat))
  archSetupThread : TaskStruct -> Reading ThreadArea

/-- What is set up: the task objects of the first threads, the thread that crashed, the dictionary
`tasks`, and the numbers of tasks and of printed dots. -/
structure SetupState where
  infos : List TaskObject := []
  crashingThread : Option InferiorThread := none
  tasks : Dict Int TaskObject := .empty
  taskCount : Nat := 0
  dots : Nat := 0

/-- `cache_task`, for a task with this process identifier. -/
def SetupState.cacheTask (state : SetupState) (pid : Int) (task : TaskObject) : SetupState :=
  { state with tasks := state.tasks.set pid task }

/-- `get_task`; a `KeyError` is no task. -/
def SetupState.getTask (state : SetupState) (pid : Int) : Option TaskObject :=
  state.tasks.value pid

/-- The end of the loop body: a task is counted, and each hundredth prints a dot. -/
def SetupState.count (state : SetupState) : SetupState :=
  { state with
    taskCount := state.taskCount + 1
    dots := if (state.taskCount + 1) % 100 = 0 then state.dots + 1 else state.dots }

namespace SetupTarget

variable (target : SetupTarget)

/-- `rqscurrs`, over what `get_percpu_vars` finds. -/
def rqscurrs : Reading (Dict Nat Nat) := do
  if target.nrCpus ≤ 0 then throw (.valueError "nr_cpus must be > 0")
  let currs ← (List.range target.nrCpus.toNat).mapM fun cpu => (target.curr cpu).map fun curr => (curr, cpu)
  return Dict.empty.setAll currs

/-- The task object of a thread, which is active if its task is the current one of a processor. -/
def activate (active : Option Nat) (task : TaskObject) : Reading TaskObject :=
  match active with
  | none => .ok task
  | some cpu => target.cpuRegs cpu >>= fun regs => task.setActive cpu regs

/-- `active and cpu == crashing_cpu`.  The value of the symbol is read only here. -/
def runsCrashing (active : Option Nat) (crashingCpu : Reading Int) : Reading Bool :=
  match active with
  | none => .ok false
  | some cpu => crashingCpu.map fun crashing => decide ((cpu : Int) = crashing)

/-- The loop body of `setup_tasks`.  The task object belongs to the thread before the architecture
has done its part. -/
def setupThread (currs : Dict Nat Nat) (crashingCpu : Reading Int) (thread : InferiorThread) (state : SetupState) :
    SetupState × Reading Unit :=
  match target.types.initTaskTypes with
  | .error error => (state, .error error)
  | .ok _ =>
      let active := currs.value thread.address
      match target.activate active { taskStruct := target.structs thread.address } with
      | .error error => (state, .error error)
      | .ok task =>
          let stored : SetupState := { state with infos := state.infos ++ [task] }
          match runsCrashing active crashingCpu with
          | .error error => (stored, .error error)
          | .ok crashed =>
              let begun : SetupState :=
                { stored with crashingThread := if crashed then some thread else state.crashingThread }
              match target.archSetupThread task.taskStruct with
              | .error error => (begun, .error error)
              | .ok area =>
                  let attached : TaskObject := { task with area := some area, thread := some thread.num }
                  let known : SetupState := { begun with infos := state.infos ++ [attached] }
                  match attached.taskStruct.pid with
                  | .error error => (known, .error error)
                  | .ok pid => ((known.cacheTask pid attached).count, .ok ())

/-- The loop of `setup_tasks`. -/
def setupThreads (currs : Dict Nat Nat) (crashingCpu : Reading Int) :
    List InferiorThread -> SetupState -> SetupState × Ending TaskError
  | [], state => (state, .completed)
  | thread :: rest, state =>
      match target.setupThread currs crashingCpu thread state with
      | (later, .error error) => (later, .raised error)
      | (later, .ok ()) => setupThreads currs crashingCpu rest later

/-- `setup_tasks`.  A symbol that is not there is a `DelayedAttributeError`, which is not the exception
that is caught around `crashing_cpu`. -/
def setupTasks : SetupState × Ending TaskError :=
  match target.rqscurrs with
  | .error error => ({}, .raised error)
  | .ok currs =>
      match target.crashingCpu with
      | none => ({}, .raised (.delayedAttribute "crashing_cpu"))
      | some crashingCpu => target.setupThreads currs crashingCpu target.threads {}

/-- What `setup_tasks` prints. -/
def printed : String :=
  let result := target.setupTasks
  "Loading tasks..." ++ String.ofList (List.replicate result.1.dots '.') ++
    match result.2 with
    | .completed => " done. (" ++ toString result.1.taskCount ++ " tasks total)\n"
    | .raised _ => ""

/-! ## The loop -/

/-- A thread with a task of some process identifier. -/
def prepared (currs : Dict Nat Nat) (crashingCpu : Reading Int) (thread : InferiorThread) :
    Reading (Int × TaskObject) := do
  let _ ← target.types.initTaskTypes
  let task ← target.activate (currs.value thread.address) { taskStruct := target.structs thread.address }
  let _ ← runsCrashing (currs.value thread.address) crashingCpu
  let area ← target.archSetupThread task.taskStruct
  let pid ← task.taskStruct.pid
  return (pid, { task with area := some area, thread := some thread.num })

/-- The thread runs on the processor that crashed. -/
def crashes (currs : Dict Nat Nat) (crashingCpu : Reading Int) (thread : InferiorThread) : Bool :=
  (currs.value thread.address).any fun cpu : Nat => decide (crashingCpu = .ok (cpu : Int))

/-- The state after one more task. -/
def withTask (currs : Dict Nat Nat) (crashingCpu : Reading Int) (state : SetupState) (thread : InferiorThread)
    (pid : Int) (task : TaskObject) : SetupState :=
  SetupState.count
    { state with
      infos := state.infos ++ [task]
      crashingThread := if crashes currs crashingCpu thread then some thread else state.crashingThread
      tasks := state.tasks.set pid task }

variable {target} {currs : Dict Nat Nat} {crashingCpu : Reading Int} {thread : InferiorThread} {state : SetupState}

theorem crashes_of_runsCrashing {crashed : Bool}
    (compared : runsCrashing (currs.value thread.address) crashingCpu = .ok crashed) :
    crashes currs crashingCpu thread = crashed := by
  rw [crashes]
  cases current : currs.value thread.address with
  | none =>
      rw [current] at compared
      cases compared
      rfl
  | some cpu =>
      rw [current] at compared
      cases crashingCpu with
      | error error => cases compared
      | ok crashing =>
          cases compared
          exact decide_eq_decide.mpr ⟨fun same => (Except.ok.inj same).symm, fun same => congrArg Except.ok same.symm⟩

/-- One round sets up a task or raises an exception. -/
theorem setupThread_prepared {pid : Int} {task : TaskObject}
    (made : target.prepared currs crashingCpu thread = .ok (pid, task)) :
    target.setupThread currs crashingCpu thread state =
      (withTask currs crashingCpu state thread pid task, .ok ()) := by
  rcases except_bind_ok.mp made with ⟨methods, picked, made⟩
  rcases except_bind_ok.mp made with ⟨activated, active, made⟩
  rcases except_bind_ok.mp made with ⟨crashed, compared, made⟩
  rcases except_bind_ok.mp made with ⟨area, found, made⟩
  rcases except_bind_ok.mp made with ⟨number, read, made⟩
  cases made
  rw [withTask, crashes_of_runsCrashing compared, setupThread, picked]
  dsimp only
  rw [active]
  dsimp only
  rw [compared]
  dsimp only
  rw [found]
  dsimp only
  rw [read]
  rfl

theorem setupThread_failed (state : SetupState) {error : TaskError}
    (failed : target.prepared currs crashingCpu thread = .error error) :
    (target.setupThread currs crashingCpu thread state).2 = .error error := by
  rcases except_bind_error.mp failed with picked | ⟨methods, picked, failed⟩
  · simp only [setupThread, picked]
  rcases except_bind_error.mp failed with active | ⟨task, active, failed⟩
  · simp only [setupThread, picked, active]
  rcases except_bind_error.mp failed with compared | ⟨crashed, compared, failed⟩
  · simp only [setupThread, picked, active, compared]
  rcases except_bind_error.mp failed with found | ⟨area, found, failed⟩
  · simp only [setupThread, picked, active, compared, found]
  rcases except_bind_error.mp failed with read | ⟨pid, read, failed⟩
  · simp only [setupThread, picked, active, compared, found, read]
  · cases failed

/-- The loop goes through exactly if each thread can be set up. -/
theorem setupThreads_completed {threads : List InferiorThread} :
    (target.setupThreads currs crashingCpu threads state).2 = .completed <->
      forall thread, thread ∈ threads ->
        Exists fun made : Int × TaskObject => target.prepared currs crashingCpu thread = .ok made := by
  induction threads generalizing state with
  | nil => exact ⟨fun _ thread member => False.elim (List.not_mem_nil member), fun _ => rfl⟩
  | cons thread rest inductionHypothesis =>
      rw [List.forall_mem_cons, setupThreads]
      cases made : target.prepared currs crashingCpu thread with
      | error error =>
          have failed := setupThread_failed state made
          generalize target.setupThread currs crashingCpu thread state = outcome at failed
          rcases outcome with ⟨later, result⟩
          change result = _ at failed
          subst failed
          refine ⟨fun impossible => (by cases impossible), fun both => ?_⟩
          rcases both.1 with ⟨_, impossible⟩
          cases impossible
      | ok pair =>
          rcases pair with ⟨pid, task⟩
          rw [setupThread_prepared made]
          exact ⟨fun completed => ⟨⟨_, rfl⟩, inductionHypothesis.mp completed⟩,
            fun both => inductionHypothesis.mpr both.2⟩

/-- What the loop leaves. -/
theorem setupThreads_state (state : SetupState) {threads : List InferiorThread}
    {made : InferiorThread -> Int × TaskObject}
    (all : forall thread, thread ∈ threads -> target.prepared currs crashingCpu thread = .ok (made thread)) :
    let after := (target.setupThreads currs crashingCpu threads state).1
    after.infos = state.infos ++ threads.map (fun thread => (made thread).2) ∧
      after.crashingThread = (threads.filter (crashes currs crashingCpu)).getLast?.or state.crashingThread ∧
      after.tasks = state.tasks.setAll (threads.map made) ∧
      after.taskCount = state.taskCount + threads.length := by
  induction threads generalizing state with
  | nil => exact ⟨(List.append_nil _).symm, rfl, rfl, rfl⟩
  | cons thread rest inductionHypothesis =>
      rcases List.forall_mem_cons.mp all with ⟨here, others⟩
      have later := inductionHypothesis (withTask currs crashingCpu state thread (made thread).1 (made thread).2) others
      rw [setupThreads, setupThread_prepared here]
      rcases later with ⟨infos, crashing, tasks, count⟩
      refine ⟨?_, ?_, ?_, ?_⟩
      · rw [infos, List.map_cons]
        exact List.append_assoc _ _ _
      · have front : (withTask currs crashingCpu state thread (made thread).1 (made thread).2).crashingThread =
            if crashes currs crashingCpu thread = true then some thread else state.crashingThread := rfl
        rw [crashing, List.filter_cons, front]
        split
        · rw [List.getLast?_cons]
          cases (rest.filter (crashes currs crashingCpu)).getLast? with
          | none => rfl
          | some last => rfl
        · rfl
      · exact tasks
      · rw [count, List.length_cons]
        change state.taskCount + 1 + _ = _
        omega

/-! ## The current tasks -/

variable (target)

/-- A thread has the current task of a processor, and of no processor with a higher number. -/
def RunsOn (thread : InferiorThread) (cpu : Nat) : Prop :=
  (cpu : Int) < target.nrCpus ∧ target.curr cpu = .ok thread.address ∧
    forall later : Nat, cpu < later -> (later : Int) < target.nrCpus -> target.curr later ≠ .ok thread.address

/-- The current tasks of all processors can be read. -/
def CurrReadable : Prop :=
  0 < target.nrCpus ∧ forall cpu : Nat, (cpu : Int) < target.nrCpus -> Exists fun curr : Nat => target.curr cpu = .ok curr

variable {target}

theorem rqscurrs_readable (found : target.rqscurrs = .ok currs) : target.CurrReadable := by
  rw [rqscurrs] at found
  by_cases none : target.nrCpus ≤ 0
  · rw [if_pos none] at found
    cases found
  · rw [if_neg none] at found
    rcases except_bind_ok.mp found with ⟨pairs, read, _⟩
    refine ⟨Int.not_le.mp none, fun cpu inside => ?_⟩
    have member : cpu ∈ List.range target.nrCpus.toNat := List.mem_range.mpr (by omega)
    rcases found_of_mapM read cpu member with ⟨pair, here⟩
    exact ⟨pair.1, except_map_pair here⟩

/-- The dictionary has the last processor of each current task. -/
theorem rqscurrs_eq (readable : target.CurrReadable) : Exists fun currs : Dict Nat Nat =>
    target.rqscurrs = .ok currs ∧
      forall thread cpu, currs.value thread.address = some cpu <-> target.RunsOn thread cpu := by
  rcases readable with ⟨positive, all⟩
  let curr : Nat -> Nat := fun cpu => (target.curr cpu).toOption.getD 0
  have read : forall cpu : Nat, (cpu : Int) < target.nrCpus -> target.curr cpu = .ok (curr cpu) := by
    intro cpu inside
    rcases all cpu inside with ⟨value, found⟩
    simp only [curr, found]
    rfl
  have pairs : ((List.range target.nrCpus.toNat).mapM fun cpu => (target.curr cpu).map fun value => (value, cpu)) =
      .ok ((List.range target.nrCpus.toNat).map fun cpu => (curr cpu, cpu)) := by
    refine mapM_of_found fun cpu member => ?_
    have inside := List.mem_range.mp member
    rw [read cpu (by omega)]
    rfl
  refine ⟨Dict.empty.setAll ((List.range target.nrCpus.toNat).map fun cpu => (curr cpu, cpu)), ?_,
    fun thread cpu => ?_⟩
  · rw [rqscurrs, if_neg (Int.not_le.mpr positive)]
    change (_ >>= fun currs => pure (Dict.empty.setAll currs)) = _
    rw [pairs]
    rfl
  · have runs : target.RunsOn thread cpu <-> cpu < target.nrCpus.toNat ∧ curr cpu = thread.address ∧
        forall later, cpu < later -> later < target.nrCpus.toNat -> curr later ≠ thread.address := by
      constructor
      · rintro ⟨inside, here, others⟩
        refine ⟨by omega, Except.ok.inj ((read cpu inside).symm.trans here), fun later above below same => ?_⟩
        exact others later above (by omega) ((read later (by omega)).trans (congrArg Except.ok same))
      · rintro ⟨inside, here, others⟩
        refine ⟨by omega, (read cpu (by omega)).trans (congrArg Except.ok here), fun later above below same => ?_⟩
        exact others later above (by omega) (Except.ok.inj ((read later below).symm.trans same))
    rw [Dict.setAll_value, assign_apply, runs]
    change (lastAssigned thread.address _).or none = some cpu <-> _
    rw [Option.or_none]
    exact lastAssigned_range

/-! ## What is set up -/

variable (target)

/-- Everything that is needed for a thread can be read.  The registers of its processor and the number
of the processor that crashed are needed for an active thread only. -/
def CanSetUp (thread : InferiorThread) : Prop :=
  (Exists fun methods : TaskMethods => target.types.initTaskTypes = .ok methods) ∧
    (forall cpu, target.RunsOn thread cpu ->
      (Exists fun regs : List (PyString × Nat) => target.cpuRegs cpu = .ok regs) ∧
        Exists fun crashing : Int => target.crashingCpu = some (.ok crashing)) ∧
    (Exists fun area : ThreadArea => target.archSetupThread (target.structs thread.address) = .ok area) ∧
    Exists fun pid : Int => (target.structs thread.address).pid = .ok pid

/-- A task object is that of a thread: it is active exactly if its task is the current one of a
processor, and it then has the registers of the last such processor. -/
structure Describes (thread : InferiorThread) (task : TaskObject) : Prop where
  taskStruct : task.taskStruct = target.structs thread.address
  attached : task.thread = some thread.num
  area : Exists fun area : ThreadArea =>
    target.archSetupThread (target.structs thread.address) = .ok area ∧ task.area = some area
  active : task.active = true <-> Exists fun cpu : Nat => target.RunsOn thread cpu
  running : forall cpu, target.RunsOn thread cpu -> task.cpu = cpu ∧ target.cpuRegs cpu = .ok task.regs

/-- All threads have their task objects, and a process identifier finds the last task that has it.
The thread that crashed is the last one with the current task of the processor that did. -/
structure Ready (objectOf : InferiorThread -> TaskObject) (state : SetupState) : Prop where
  infos : state.infos = target.threads.map objectOf
  described : forall thread, thread ∈ target.threads -> target.Describes thread (objectOf thread)
  getTask : forall pid task, state.getTask pid = some task <->
    Exists fun before : List InferiorThread => Exists fun thread : InferiorThread =>
      Exists fun later : List InferiorThread =>
        target.threads = before ++ thread :: later ∧ objectOf thread = task ∧
          (target.structs thread.address).pid = .ok pid ∧
          forall other, other ∈ later -> (target.structs other.address).pid ≠ .ok pid
  crashingThread : forall thread, state.crashingThread = some thread <->
    Exists fun cpu : Nat => Exists fun before : List InferiorThread => Exists fun later : List InferiorThread =>
      target.crashingCpu = some (.ok (cpu : Int)) ∧ target.threads = before ++ thread :: later ∧
        target.RunsOn thread cpu ∧ forall other, other ∈ later -> ¬ target.RunsOn other cpu
  taskCount : state.taskCount = target.threads.length
  dots : state.dots = target.threads.length / 100

variable {target}

theorem setActive_natCast (task : TaskObject) (cpu : Nat) (regs : List (PyString × Nat)) :
    task.setActive cpu regs = .ok { task with active := true, cpu := cpu, regs := regs } :=
  if_pos (Int.natCast_nonneg cpu)

section Prepared

variable (currents : forall thread cpu, currs.value thread.address = some cpu <-> target.RunsOn thread cpu)

include currents

/-- A task object can be activated if the registers of its processor can be read. -/
theorem activate_iff (task : TaskObject) :
    (Exists fun later : TaskObject => target.activate (currs.value thread.address) task = .ok later) <->
      forall cpu, target.RunsOn thread cpu ->
        Exists fun regs : List (PyString × Nat) => target.cpuRegs cpu = .ok regs := by
  constructor
  · rintro ⟨later, active⟩ cpu runs
    rw [(currents thread cpu).mpr runs] at active
    rcases except_bind_ok.mp active with ⟨regs, found, _⟩
    exact ⟨regs, found⟩
  · intro readable
    cases current : currs.value thread.address with
    | none => exact ⟨task, rfl⟩
    | some cpu =>
        rcases readable cpu ((currents thread cpu).mp current) with ⟨regs, found⟩
        refine ⟨{ task with active := true, cpu := cpu, regs := regs }, ?_⟩
        rw [activate, found]
        exact setActive_natCast task cpu regs

/-- What activating changes. -/
theorem activate_task {task later : TaskObject} (idle : task.active = false)
    (active : target.activate (currs.value thread.address) task = .ok later) :
    later.taskStruct = task.taskStruct ∧ (later.active = true <-> Exists fun cpu : Nat => target.RunsOn thread cpu) ∧
      forall cpu, target.RunsOn thread cpu -> later.cpu = cpu ∧ target.cpuRegs cpu = .ok later.regs := by
  cases current : currs.value thread.address with
  | none =>
      have nowhere : forall cpu, ¬ target.RunsOn thread cpu := by
        intro cpu runs
        cases current.symm.trans ((currents thread cpu).mpr runs)
      rw [current] at active
      cases active
      refine ⟨rfl, ⟨fun running => ?_, fun ⟨cpu, runs⟩ => absurd runs (nowhere cpu)⟩,
        fun cpu runs => absurd runs (nowhere cpu)⟩
      cases idle.symm.trans running
  | some cpu =>
      rw [current] at active
      rcases except_bind_ok.mp active with ⟨regs, found, activated⟩
      rw [setActive_natCast] at activated
      cases activated
      refine ⟨rfl, ⟨fun _ => ⟨cpu, (currents thread cpu).mp current⟩, fun _ => rfl⟩, fun other runs => ?_⟩
      have same : cpu = other := Option.some.inj (current.symm.trans ((currents thread other).mpr runs))
      rw [← same]
      exact ⟨rfl, found⟩

/-- The comparison with the processor that crashed needs its number for an active thread only. -/
theorem runsCrashing_iff :
    (Exists fun crashed : Bool => runsCrashing (currs.value thread.address) crashingCpu = .ok crashed) <->
      forall cpu, target.RunsOn thread cpu -> Exists fun crashing : Int => crashingCpu = .ok crashing := by
  constructor
  · rintro ⟨crashed, compared⟩ cpu runs
    rw [(currents thread cpu).mpr runs] at compared
    cases crashingCpu with
    | error error => cases compared
    | ok crashing => exact ⟨crashing, rfl⟩
  · intro readable
    cases current : currs.value thread.address with
    | none => exact ⟨false, rfl⟩
    | some cpu =>
        rcases readable cpu ((currents thread cpu).mp current) with ⟨crashing, read⟩
        rw [read]
        exact ⟨_, rfl⟩

/-- A thread is set up if what is needed can be read, and its task object is then as it should be. -/
theorem prepared_iff (known : target.crashingCpu = some crashingCpu) :
    ((Exists fun made : Int × TaskObject => target.prepared currs crashingCpu thread = .ok made) <->
        target.CanSetUp thread) ∧
      forall pid task, target.prepared currs crashingCpu thread = .ok (pid, task) ->
        (target.structs thread.address).pid = .ok pid ∧ target.Describes thread task := by
  have facts : forall made, target.prepared currs crashingCpu thread = .ok made -> target.CanSetUp thread ∧
      (target.structs thread.address).pid = .ok made.1 ∧ target.Describes thread made.2 := by
    intro made found
    rcases except_bind_ok.mp found with ⟨methods, picked, found⟩
    rcases except_bind_ok.mp found with ⟨task, active, found⟩
    rcases except_bind_ok.mp found with ⟨crashed, compared, found⟩
    rcases except_bind_ok.mp found with ⟨area, attached, found⟩
    rcases except_bind_ok.mp found with ⟨pid, read, found⟩
    rcases activate_task currents rfl active with ⟨same, running, registers⟩
    change task.taskStruct = target.structs thread.address at same
    rw [same] at attached read
    cases found
    refine ⟨⟨⟨methods, picked⟩, fun cpu runs => ⟨(activate_iff currents _).mp ⟨task, active⟩ cpu runs, ?_⟩,
      ⟨area, attached⟩, ⟨pid, read⟩⟩, read, same, rfl, ⟨area, attached, rfl⟩, running, registers⟩
    rcases (runsCrashing_iff currents).mp ⟨crashed, compared⟩ cpu runs with ⟨crashing, readable⟩
    exact ⟨crashing, known.trans (congrArg some readable)⟩
  refine ⟨⟨fun ⟨made, found⟩ => (facts made found).1, ?_⟩, fun pid task found => (facts _ found).2⟩
  rintro ⟨⟨methods, picked⟩, running, ⟨area, attached⟩, pid, read⟩
  rcases (activate_iff currents { taskStruct := target.structs thread.address }).mpr
    fun cpu runs => (running cpu runs).1 with ⟨task, active⟩
  have number : forall cpu, target.RunsOn thread cpu -> Exists fun crashing : Int => crashingCpu = .ok crashing := by
    intro cpu runs
    rcases (running cpu runs).2 with ⟨crashing, readable⟩
    exact ⟨crashing, Option.some.inj (known.symm.trans readable)⟩
  rcases (runsCrashing_iff currents).mpr number with ⟨crashed, compared⟩
  have same := (activate_task currents rfl active).1
  change task.taskStruct = target.structs thread.address at same
  refine ⟨(pid, { task with area := some area, thread := some thread.num }), ?_⟩
  rw [prepared, picked]
  change (target.activate (currs.value thread.address) _ >>= _) = _
  rw [active]
  change (runsCrashing (currs.value thread.address) crashingCpu >>= _) = _
  rw [compared]
  change (target.archSetupThread task.taskStruct >>= _) = _
  rw [same, attached]
  change ((target.structs thread.address).pid >>= _) = _
  rw [read]
  rfl

end Prepared

/-- A hundred tasks print a dot. -/
theorem setupThreads_dots (state : SetupState) {threads : List InferiorThread}
    (counted : state.dots = state.taskCount / 100) {made : InferiorThread -> Int × TaskObject}
    (all : forall thread, thread ∈ threads -> target.prepared currs crashingCpu thread = .ok (made thread)) :
    (target.setupThreads currs crashingCpu threads state).1.dots = (state.taskCount + threads.length) / 100 := by
  induction threads generalizing state with
  | nil => exact counted
  | cons thread rest inductionHypothesis =>
      rcases List.forall_mem_cons.mp all with ⟨here, others⟩
      have next : (withTask currs crashingCpu state thread (made thread).1 (made thread).2).dots =
          (state.taskCount + 1) / 100 := by
        change (if (state.taskCount + 1) % 100 = 0 then state.dots + 1 else state.dots) = _
        rw [counted]
        split
        · omega
        · omega
      rw [setupThreads, setupThread_prepared here]
      refine (inductionHypothesis _ next others).trans ?_
      rw [List.length_cons]
      change (state.taskCount + 1 + rest.length) / 100 = _
      congr 1
      omega

theorem crashes_iff
    (currents : forall thread cpu, currs.value thread.address = some cpu <-> target.RunsOn thread cpu) :
    crashes currs crashingCpu thread = true <->
      Exists fun cpu : Nat => crashingCpu = .ok (cpu : Int) ∧ target.RunsOn thread cpu := by
  rw [crashes, Option.any_eq_true]
  constructor
  · rintro ⟨cpu, current, same⟩
    exact ⟨cpu, of_decide_eq_true same, (currents thread cpu).mp current⟩
  · rintro ⟨cpu, same, runs⟩
    exact ⟨cpu, (currents thread cpu).mpr runs, decide_eq_true same⟩

/-- The setup goes through exactly if the current tasks can be read, there is a symbol for the
processor that crashed, and every thread can be set up, for which an active one needs the value of
the symbol. -/
theorem setupTasks_completed_iff : target.setupTasks.2 = .completed <->
    target.CurrReadable ∧ target.crashingCpu ≠ none ∧
      forall thread, thread ∈ target.threads -> target.CanSetUp thread := by
  rw [setupTasks]
  by_cases readable : target.CurrReadable
  · rcases rqscurrs_eq readable with ⟨currs, found, currents⟩
    rw [found]
    dsimp only
    cases crashing : target.crashingCpu with
    | none => exact ⟨fun impossible => (by cases impossible), fun all => absurd rfl all.2.1⟩
    | some crashingCpu =>
        dsimp only
        rw [setupThreads_completed]
        constructor
        · exact fun all => ⟨readable, Option.some_ne_none _,
            fun thread member => (prepared_iff currents crashing).1.mp (all thread member)⟩
        · exact fun all thread member => (prepared_iff currents crashing).1.mpr (all.2.2 thread member)
  · cases found : target.rqscurrs with
    | error error => exact ⟨fun impossible => (by cases impossible), fun all => absurd all.1 readable⟩
    | ok currs => exact absurd (rqscurrs_readable found) readable

/-- The thread that crashed is the last one with the current task of the processor that did. -/
theorem crashed_iff
    (currents : forall thread cpu, currs.value thread.address = some cpu <-> target.RunsOn thread cpu)
    (crashing : target.crashingCpu = some crashingCpu) :
    (target.threads.filter (crashes currs crashingCpu)).getLast? = some thread <->
      Exists fun cpu : Nat => Exists fun before : List InferiorThread => Exists fun later : List InferiorThread =>
        target.crashingCpu = some (.ok (cpu : Int)) ∧ target.threads = before ++ thread :: later ∧
          target.RunsOn thread cpu ∧ forall other, other ∈ later -> ¬ target.RunsOn other cpu := by
  rw [getLast?_filter_eq_some_iff]
  constructor
  · rintro ⟨before, later, shape, here, others⟩
    rcases (crashes_iff currents).mp here with ⟨cpu, known, runs⟩
    refine ⟨cpu, before, later, crashing.trans (congrArg some known), shape, runs, fun other member also => ?_⟩
    cases (others other member).symm.trans ((crashes_iff currents).mpr ⟨cpu, known, also⟩)
  · rintro ⟨cpu, before, later, known, shape, runs, others⟩
    have number : crashingCpu = .ok (cpu : Int) := Option.some.inj (crashing.symm.trans known)
    refine ⟨before, later, shape, (crashes_iff currents).mpr ⟨cpu, number, runs⟩, fun other member => ?_⟩
    refine Bool.eq_false_iff.mpr fun also => ?_
    rcases (crashes_iff currents).mp also with ⟨again, equal, there⟩
    rw [Int.natCast_inj.mp (Except.ok.inj (equal.symm.trans number))] at there
    exact others other member there

/-- What is assigned to a process identifier is the task object of the last thread that has it. -/
theorem lastMade_iff {made : InferiorThread -> Int × TaskObject}
    (pids : forall thread, thread ∈ target.threads -> (target.structs thread.address).pid = .ok (made thread).1)
    {pid : Int} {task : TaskObject} :
    lastAssigned pid (target.threads.map made) = some task <->
      Exists fun before : List InferiorThread => Exists fun thread : InferiorThread =>
        Exists fun later : List InferiorThread =>
          target.threads = before ++ thread :: later ∧ (made thread).2 = task ∧
            (target.structs thread.address).pid = .ok pid ∧
            forall other, other ∈ later -> (target.structs other.address).pid ≠ .ok pid := by
  have others : forall later : List InferiorThread, (forall other, other ∈ later -> other ∈ target.threads) ->
      ((forall other, other ∈ later -> (made other).1 ≠ pid) <->
        forall other, other ∈ later -> (target.structs other.address).pid ≠ .ok pid) := by
    intro later inside
    refine forall_congr' fun other => forall_congr' fun member => not_congr ?_
    rw [pids other (inside other member), Except.ok.injEq]
  rw [lastAssigned_map_iff]
  refine exists_congr fun before => exists_congr fun thread => exists_congr fun later =>
    and_congr_right fun shape => ?_
  have inside : forall other, other ∈ thread :: later -> other ∈ target.threads := by
    intro other member
    rw [shape]
    exact List.mem_append_right before member
  rw [others later fun other member => inside other (List.mem_cons_of_mem thread member),
    pids thread (inside thread List.mem_cons_self), Except.ok.injEq, ← and_assoc, Prod.ext_iff]
  exact and_congr_left' And.comm

/-- After the setup all task objects are in place. -/
theorem ready_of_completed (completed : target.setupTasks.2 = .completed) :
    Exists fun objectOf : InferiorThread -> TaskObject => target.Ready objectOf target.setupTasks.1 := by
  have needed := setupTasks_completed_iff.mp completed
  rcases rqscurrs_eq needed.1 with ⟨currs, found, currents⟩
  rcases Option.ne_none_iff_exists'.mp needed.2.1 with ⟨crashingCpu, crashing⟩
  have shape : target.setupTasks = target.setupThreads currs crashingCpu target.threads {} := by
    rw [setupTasks, found]
    dsimp only
    rw [crashing]
  rw [shape]
  let made : InferiorThread -> Int × TaskObject := fun thread =>
    (target.prepared currs crashingCpu thread).toOption.getD (0, { taskStruct := target.structs thread.address })
  have same : forall thread, thread ∈ target.threads ->
      target.prepared currs crashingCpu thread = .ok (made thread) := by
    intro thread member
    rcases (prepared_iff currents crashing).1.mpr (needed.2.2 thread member) with ⟨pair, here⟩
    simp only [made, here]
    rfl
  have facts : forall thread, thread ∈ target.threads ->
      (target.structs thread.address).pid = .ok (made thread).1 ∧ target.Describes thread (made thread).2 :=
    fun thread member => (prepared_iff currents crashing).2 _ _ (same thread member)
  rcases setupThreads_state {} same with ⟨infos, crashed, tasks, count⟩
  have dots := setupThreads_dots {} rfl same
  refine ⟨fun thread => (made thread).2, infos, fun thread member => (facts thread member).2, ?_, ?_,
    count.trans (Nat.zero_add _), dots.trans (congrArg (· / 100) (Nat.zero_add _))⟩
  · intro pid task
    rw [SetupState.getTask, tasks, Dict.setAll_value, assign_apply]
    change (lastAssigned pid _).or none = some task <-> _
    rw [Option.or_none]
    exact lastMade_iff fun thread member => (facts thread member).1
  · intro thread
    rw [crashed, Option.or_none]
    exact crashed_iff currents crashing

section Cached

variable {objectOf : InferiorThread -> TaskObject} {state : SetupState} {pid : Int}

/-- The task with a process identifier is that of the last thread that has it. -/
theorem Ready.thread_of_getTask (ready : target.Ready objectOf state) {num : Nat} :
    (Exists fun task : TaskObject => state.getTask pid = some task ∧ task.thread = some num) <->
      Exists fun before : List InferiorThread => Exists fun thread : InferiorThread =>
        Exists fun later : List InferiorThread =>
          target.threads = before ++ thread :: later ∧ thread.num = num ∧
            (target.structs thread.address).pid = .ok pid ∧
            forall other, other ∈ later -> (target.structs other.address).pid ≠ .ok pid := by
  constructor
  · rintro ⟨task, found, attached⟩
    rcases (ready.getTask pid task).mp found with ⟨before, thread, later, shape, same, read, others⟩
    refine ⟨before, thread, later, shape, ?_, read, others⟩
    rw [← same, (ready.described thread (shape ▸ List.mem_append_cons_self)).attached] at attached
    exact Option.some.inj attached
  · rintro ⟨before, thread, later, shape, number, read, others⟩
    refine ⟨objectOf thread, (ready.getTask pid _).mpr ⟨before, thread, later, shape, rfl, read, others⟩, ?_⟩
    rw [(ready.described thread (shape ▸ List.mem_append_cons_self)).attached, number]

/-- There is no task with a process identifier exactly if no thread has it. -/
theorem Ready.getTask_none (ready : target.Ready objectOf state) : state.getTask pid = none <->
    forall thread, thread ∈ target.threads -> (target.structs thread.address).pid ≠ .ok pid := by
  constructor
  · intro absent thread inside read
    rcases exists_last (fun thread : InferiorThread => (target.structs thread.address).pid = .ok pid) inside read
      with ⟨before, last, later, shape, here, others⟩
    cases absent.symm.trans ((ready.getTask pid _).mpr ⟨before, last, later, shape, rfl, here, others⟩)
  · intro absent
    refine Option.eq_none_iff_forall_ne_some.mpr fun task found => ?_
    rcases (ready.getTask pid task).mp found with ⟨before, thread, later, shape, _, read, _⟩
    exact absent thread (shape ▸ List.mem_append_cons_self) read

end Cached

/-- `setup_tasks` goes through exactly if the current tasks can be read, there is a symbol for the
processor that crashed, readable if a thread is active, and every thread can be set up.  All task
objects are then in place. -/
theorem setupTasks_ready (target : SetupTarget) :
    (target.setupTasks.2 = .completed <->
      target.CurrReadable ∧ target.crashingCpu ≠ none ∧
        forall thread, thread ∈ target.threads -> target.CanSetUp thread) ∧
    (target.setupTasks.2 = .completed ->
      Exists fun objectOf : InferiorThread -> TaskObject => target.Ready objectOf target.setupTasks.1) :=
  ⟨setupTasks_completed_iff, ready_of_completed⟩

end SetupTarget

/-! ## The command `task` -/

/-- What the command `task` does: it makes a thread the selected one, or it prints a line. -/
inductive TaskOutcome where
  | selects (num : Nat)
  | noSuchTask (pid : Int)
  | attributeError
deriving DecidableEq, Repr

/-- `execute` of `TaskCommand`, for the thread that is selected before it. -/
def SetupState.executeTask (state : SetupState) (selected : Option Nat) (args : List Int) : TaskOutcome :=
  match args with
  | [] =>
      match selected with
      | none => .attributeError
      | some num => .selects num
  | pid :: _ =>
      match state.getTask pid with
      | none => .noSuchTask pid
      | some task =>
          match task.thread with
          | none => .attributeError
          | some num => .selects num

namespace SetupState

variable {state : SetupState} {selected : Option Nat} {pid : Int} {rest : List Int}

theorem executeTask_eq_selects {num : Nat} : state.executeTask selected (pid :: rest) = .selects num <->
    Exists fun task : TaskObject => state.getTask pid = some task ∧ task.thread = some num := by
  rw [executeTask]
  cases state.getTask pid with
  | none => exact ⟨fun impossible => (by cases impossible), fun ⟨_, impossible, _⟩ => (by cases impossible)⟩
  | some task =>
      dsimp only
      cases attached : task.thread with
      | none =>
          refine ⟨fun impossible => (by cases impossible), ?_⟩
          rintro ⟨other, same, other'⟩
          cases same
          cases attached.symm.trans other'
      | some here =>
          rw [TaskOutcome.selects.injEq]
          constructor
          · exact fun same => ⟨task, rfl, attached.trans (congrArg some same)⟩
          · rintro ⟨other, same, number⟩
            cases same
            exact Option.some.inj (attached.symm.trans number)

theorem executeTask_eq_noSuchTask :
    state.executeTask selected (pid :: rest) = .noSuchTask pid <-> state.getTask pid = none := by
  rw [executeTask]
  cases state.getTask pid with
  | none => exact ⟨fun _ => rfl, fun _ => rfl⟩
  | some task =>
      dsimp only
      cases task.thread with
      | none => exact ⟨fun impossible => (by cases impossible), fun impossible => (by cases impossible)⟩
      | some num => exact ⟨fun impossible => (by cases impossible), fun impossible => (by cases impossible)⟩

end SetupState

/-- After the setup the command selects the thread of the last task with the process identifier, and
it prints a line exactly if no task has it. -/
theorem executeTask_selects (target : SetupTarget) (completed : target.setupTasks.2 = .completed)
    (selected : Option Nat) (pid : Int) (rest : List Int) :
    (forall num, target.setupTasks.1.executeTask selected (pid :: rest) = .selects num <->
      Exists fun before : List InferiorThread => Exists fun thread : InferiorThread =>
        Exists fun later : List InferiorThread =>
          target.threads = before ++ thread :: later ∧ thread.num = num ∧
            (target.structs thread.address).pid = .ok pid ∧
            forall other, other ∈ later -> (target.structs other.address).pid ≠ .ok pid) ∧
    (target.setupTasks.1.executeTask selected (pid :: rest) = .noSuchTask pid <->
      forall thread, thread ∈ target.threads -> (target.structs thread.address).pid ≠ .ok pid) := by
  rcases SetupTarget.ready_of_completed completed with ⟨objectOf, ready⟩
  exact ⟨fun num => SetupState.executeTask_eq_selects.trans ready.thread_of_getTask,
    SetupState.executeTask_eq_noSuchTask.trans ready.getTask_none⟩

/-- The idle tasks of two processors, and a task that does not run. -/
def idleTasks : SetupTarget where
  threads := [⟨1, 16⟩, ⟨2, 32⟩, ⟨3, 48⟩]
  different := by decide
  types := ⟨false, true, true, true, true, false, false, false, false, true, false, false⟩
  structs := fun address =>
    { address := address, comm := .ok "swapper".toList, pid := .ok (if address = 48 then 1 else 0), parentPid := .ok 0
      state := .error (.gdb .memoryError), underscoreState := .ok 0, exitState := .ok 0, flags := .ok 0
      exitSignal := .ok 0, cpu := .ok 0, lastArrival := .ok 90, lastRun := .error (.gdb .memoryError)
      timestamp := .error (.gdb .memoryError), mm := .ok 0
      mmStruct := ⟨.ok 0, .ok 0, [], .error (.gdb .memoryError), .error (.gdb .memoryError)⟩ }
  placed := fun _ => rfl
  nrCpus := 2
  curr := fun cpu => if cpu = 0 then .ok 16 else .ok 32
  crashingCpu := some (.ok 1)
  cpuRegs := fun _ => .ok []
  archSetupThread := fun _ => .ok ⟨.ok 0, .ok 0⟩

/-- Of the two idle tasks the second is selected, and no task has the number 5. -/
theorem executeTask_selects_idle :
    idleTasks.setupTasks.1.executeTask none [0] = .selects 2 ∧
      idleTasks.setupTasks.1.executeTask none [5] = .noSuchTask 5 := by
  have found := (executeTask_selects idleTasks (by decide) none 0 []).1 2
  have missing := (executeTask_selects idleTasks (by decide) none 5 []).2
  refine ⟨found.mpr ⟨[⟨1, 16⟩], ⟨2, 32⟩, [⟨3, 48⟩], rfl, rfl, rfl, ?_⟩, missing.mpr ?_⟩
  · intro other member same
    rw [List.mem_singleton.mp member] at same
    exact absurd (Except.ok.inj same) (by decide)
  · intro thread _ same
    have number := Except.ok.inj same
    split at number
    · exact absurd number (by decide)
    · exact absurd number (by decide)

end Target
end CrashPython

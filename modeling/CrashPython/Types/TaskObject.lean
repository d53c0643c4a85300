import CrashPython.Types.Page
import CrashPython.Types.Task

namespace CrashPython
namespace Types

open Library

/-!
# The task objects of `crash/types/task.py`

`LinuxTask` wraps a `struct task_struct`.  Which members the structures have depends on the kernel, so
the class looks at the types once and picks the methods that read the state, the resident set and the
time of the last run.  A wrapper keeps the memory statistics of its task after it has read them.

Every member is read when it is needed, and each read can fail.
-/

/-- What can come out of a method of `LinuxTask`. -/
inductive TaskError where
  | gdb (error : GdbError)
  | unicodeDecode
  | attributeError
  | delayedAttribute (name : String)
  | invalidArgument (text : String)
  | missingField (text : String)
  | valueError (text : String)
  | runtimeError (text : String)
deriving DecidableEq, Repr

/-- A value that is read when it is needed. -/
abbrev Reading (Value : Type) := Except TaskError Value

/-- Python's `or`, of two conditions that are read. -/
def readEither (first second : Reading Bool) : Reading Bool :=
  first >>= fun holds => if holds then pure true else second

/-! ## The methods of a kernel -/

/-- The members of `struct task_struct` and `struct mm_struct` that the class asks for. -/
structure TaskTypes where
  state : Bool
  underscoreState : Bool
  exitState : Bool
  cpu : Bool
  lastArrival : Bool
  lastRun : Bool
  timestamp : Bool
  rss : Bool
  underscoreRss : Bool
  rssStat : Bool
  fileRss : Bool
  anonRss : Bool
deriving DecidableEq, Repr

/-- The method that reads the resident set.  The first stands for `_get_rss_field` and
`_get__rss_field`, and the last one has the list `_anon_file_rss_fields`. -/
inductive RssMethod where
  | field
  | stat
  | anonFile (fileRss anonRss : Bool)
deriving DecidableEq, Repr

/-- The method that reads the time of the last run. -/
inductive LastRunMethod where
  | lastArrival
  | lastRun
  | timestamp
deriving DecidableEq, Repr

/-- The attributes of the class. -/
structure TaskMethods where
  hasExitState : Bool
  underscoreState : Bool
  rss : RssMethod
  lastRun : LastRunMethod
deriving DecidableEq, Repr

namespace TaskTypes

variable (types : TaskTypes)

/-- `_pick_get_rss`. -/
def pickGetRss : Reading RssMethod :=
  if types.rss || types.underscoreRss then .ok .field
  else if types.rssStat then .ok .stat
  else if types.fileRss || types.anonRss then .ok (.anonFile types.fileRss types.anonRss)
  else .error (.runtimeError "No method to retrieve RSS from task found.")

/-- `_pick_last_run`. -/
def pickLastRun : Reading LastRunMethod :=
  if types.lastArrival then .ok .lastArrival
  else if types.lastRun then .ok .lastRun
  else if types.timestamp then .ok .timestamp
  else .error (.runtimeError "No method to retrieve last run from task found.")

/-- `_init_task_types`. -/
def initTaskTypes : Reading TaskMethods := do
  let underscoreState ←
    if types.state then .ok false
    else if types.underscoreState then .ok true
    else .error (.missingField "No way to resolve task_struct.state")
  let getRss ← types.pickGetRss
  let getLastRun ← types.pickLastRun
  return ⟨types.exitState, underscoreState, getRss, getLastRun⟩

end TaskTypes

/-! ## The structures of a task -/

/-- A `struct mm_struct`. -/
structure MmStruct where
  totalVm : Reading Int
  pgd : Reading Int
  rssStat : List (Reading Int)
  fileRss : Reading Int
  anonRss : Reading Int

/-- A `struct task_struct`, with the process identifier of its parent and the structure that `mm`
points to. -/
structure TaskStruct where
  address : Nat
  comm : Reading PyString
  pid : Reading Int
  parentPid : Reading Int
  state : Reading Int
  underscoreState : Reading Int
  exitState : Reading Int
  flags : Reading Int
  exitSignal : Reading Int
  cpu : Reading Int
  lastArrival : Reading Int
  lastRun : Reading Int
  timestamp : Reading Int
  mm : Reading Nat
  mmStruct : MmStruct

/-- What the architecture keeps for a thread: the member `cpu` of its `struct thread_info` and the
stack pointer in its `struct thread_struct`. -/
structure ThreadArea where
  cpu : Reading Int
  stackPointer : Reading Nat

/-- The memory statistics of a task. -/
structure MemUsage where
  memValid : Bool := false
  rss : Int := 0
  totalVm : Int := 0
  pgdAddr : Int := 0
deriving DecidableEq, Repr

/-- What a wrapper knows beside the memory statistics: its structure, whether the task was running
on a processor and with which registers, and the gdb thread. -/
structure TaskObject where
  taskStruct : TaskStruct
  active : Bool := false
  cpu : Int := -1
  regs : List (PyString × Nat) := []
  area : Option ThreadArea := none
  thread : Option Nat := none

/-- A kernel with the methods that its types call for, the names of its states, and the address of
`init_mm` if there is one. -/
structure TaskKernel where
  types : TaskTypes
  methods : TaskMethods
  picked : types.initTaskTypes = .ok methods
  flags : TaskStateFlags
  initMm : Option Nat

namespace TaskObject

variable (kernel : TaskKernel) (task : TaskObject)

/-- `set_active`. -/
def setActive (cpu : Int) (regs : List (PyString × Nat)) : Reading TaskObject :=
  if 0 ≤ cpu then .ok { task with active := true, cpu := cpu, regs := regs }
  else .error (.invalidArgument "cpu must be integer >= 0")

/-- The reads of `task_state`. -/
def readState : Reading LinuxTask := do
  let state ← if kernel.methods.underscoreState then task.taskStruct.underscoreState else task.taskStruct.state
  if kernel.methods.hasExitState then
    let exitState ← task.taskStruct.exitState
    return ⟨state, some exitState⟩
  else return ⟨state, none⟩

/-- `is_zombie`. -/
def isZombie : Reading Bool := do
  let state ← task.readState kernel
  return Int.land state.taskState (kernel.flags .exitZombie) != 0

/-- `is_exiting`. -/
def isExiting : Reading Bool := do
  let flags ← task.taskStruct.flags
  return Int.land flags 0x4 != 0

/-- `is_thread_group_leader`. -/
def isThreadGroupLeader : Reading Bool := do
  let exitSignal ← task.taskStruct.exitSignal
  return decide (0 ≤ exitSignal)

/-- `is_kernel_task`. -/
def isKernelTask : Reading Bool := do
  let pid ← task.taskStruct.pid
  if pid = 0 then return true
  if ← readEither (task.isZombie kernel) task.isExiting then return false
  let mm ← task.taskStruct.mm
  if mm = 0 then return true
  match kernel.initMm with
  | none => throw (.delayedAttribute "init_mm")
  | some initMm => return decide (mm = initMm)

/-- The sum of some members. -/
def sumOf (members : List (Reading Int)) : Reading Int :=
  members.foldlM (fun rss member => member.map fun value => rss + value) 0

/-- `get_rss`.  A value of gdb has no method `value`. -/
def getRss : Reading Int :=
  match kernel.methods.rss with
  | .field => .error .attributeError
  | .stat => sumOf task.taskStruct.mmStruct.rssStat
  | .anonFile fileRss anonRss =>
      sumOf ((if fileRss then [task.taskStruct.mmStruct.fileRss] else []) ++
        (if anonRss then [task.taskStruct.mmStruct.anonRss] else []))

/-- `last_run`. -/
def lastRun : Reading Int :=
  match kernel.methods.lastRun with
  | .lastArrival => task.taskStruct.lastArrival
  | .lastRun => task.taskStruct.lastRun
  | .timestamp => task.taskStruct.timestamp

/-- `get_last_cpu`. -/
def getLastCpu : Reading Int :=
  if kernel.types.cpu then task.taskStruct.cpu
  else match task.area with
    | none => .error .attributeError
    | some area => area.cpu

/-- The end of `update_mem_usage`, for a task with its own `struct mm_struct`. -/
def readMemUsage (usage : MemUsage) : MemUsage × Reading Unit :=
  match task.getRss kernel with
  | .error error => (usage, .error error)
  | .ok rss =>
      match task.taskStruct.mmStruct.totalVm with
      | .error error => ({ usage with rss := rss }, .error error)
      | .ok totalVm =>
          match task.taskStruct.mmStruct.pgd with
          | .error error => ({ usage with rss := rss, totalVm := totalVm }, .error error)
          | .ok pgdAddr => (⟨true, rss, totalVm, pgdAddr⟩, .ok ())

/-- `update_mem_usage`.  An exception can leave some of the statistics behind. -/
def updateMemUsage (usage : MemUsage) : MemUsage × Reading Unit :=
  if usage.memValid then (usage, .ok ())
  else match readEither (task.isZombie kernel) task.isExiting with
    | .error error => (usage, .error error)
    | .ok true => (usage, .ok ())
    | .ok false =>
        match task.taskStruct.mm with
        | .error error => (usage, .error error)
        | .ok mm => if mm = 0 then ({ usage with memValid := true }, .ok ()) else task.readMemUsage kernel usage

/-! ## The statistics that are kept -/

/-- Statistics are those of a task that was never looked at, or all that can be read, or what a
read that fails has left behind. -/
inductive Kept (usage : MemUsage) : Prop where
  | fresh (none : usage = {})
  | read (complete : (task.updateMemUsage kernel {}).2 = .ok ()) (same : usage = (task.updateMemUsage kernel {}).1)
  | failed (error : TaskError) (fails : (task.updateMemUsage kernel {}).2 = .error error)
      (invalid : usage.memValid = false)

variable {kernel task} {usage : MemUsage}

/-- Statistics that are not valid are read again as if there were none. -/
theorem readMemUsage_same (usage : MemUsage) :
    (task.readMemUsage kernel usage).2 = (task.readMemUsage kernel {}).2 ∧
      ((task.readMemUsage kernel {}).2 = .ok () ->
        (task.readMemUsage kernel usage).1 = (task.readMemUsage kernel {}).1) := by
  simp only [readMemUsage]
  cases task.getRss kernel with
  | error error => exact ⟨rfl, fun impossible => (by cases impossible)⟩
  | ok rss =>
      cases task.taskStruct.mmStruct.totalVm with
      | error error => exact ⟨rfl, fun impossible => (by cases impossible)⟩
      | ok totalVm =>
          cases task.taskStruct.mmStruct.pgd with
          | error error => exact ⟨rfl, fun impossible => (by cases impossible)⟩
          | ok pgdAddr => exact ⟨rfl, fun _ => rfl⟩

/-- A read that fails leaves the statistics without the mark. -/
theorem readMemUsage_invalid {error : TaskError} (invalid : usage.memValid = false)
    (fails : (task.readMemUsage kernel usage).2 = .error error) :
    (task.readMemUsage kernel usage).1.memValid = false := by
  simp only [readMemUsage] at fails ⊢
  cases rss : task.getRss kernel with
  | error error => exact invalid
  | ok rss =>
      cases totalVm : task.taskStruct.mmStruct.totalVm with
      | error error => exact invalid
      | ok totalVm =>
          cases pgd : task.taskStruct.mmStruct.pgd with
          | error error => exact invalid
          | ok pgdAddr =>
              simp only [rss, totalVm, pgd] at fails
              cases fails

theorem updateMemUsage_failed {error : TaskError} (fails : (task.updateMemUsage kernel {}).2 = .error error)
    (invalid : usage.memValid = false) :
    (task.updateMemUsage kernel usage).2 = .error error ∧ (task.updateMemUsage kernel usage).1.memValid = false := by
  simp only [updateMemUsage, invalid] at fails ⊢
  cases gone : readEither (task.isZombie kernel) task.isExiting with
  | error other =>
      simp only [gone] at fails
      exact ⟨fails, invalid⟩
  | ok gone' =>
      cases gone' with
      | true =>
          simp only [gone] at fails
          cases fails
      | false =>
          cases mm : task.taskStruct.mm with
          | error other =>
              simp only [gone, mm] at fails
              exact ⟨fails, invalid⟩
          | ok mm' =>
              simp only [gone, mm] at fails ⊢
              by_cases null : mm' = 0
              · simp only [null] at fails
                cases fails
              · rw [if_neg Bool.false_ne_true, if_neg null] at fails ⊢
                have same : (task.readMemUsage kernel usage).2 = .error error :=
                  (readMemUsage_same usage).1.trans fails
                exact ⟨same, readMemUsage_invalid invalid same⟩

theorem readMemUsage_valid (complete : (task.readMemUsage kernel usage).2 = .ok ()) :
    (task.readMemUsage kernel usage).1.memValid = true := by
  simp only [readMemUsage] at complete ⊢
  cases rss : task.getRss kernel with
  | error error =>
      simp only [rss] at complete
      cases complete
  | ok rss' =>
      cases totalVm : task.taskStruct.mmStruct.totalVm with
      | error error =>
          simp only [rss, totalVm] at complete
          cases complete
      | ok totalVm' =>
          cases pgd : task.taskStruct.mmStruct.pgd with
          | error error =>
              simp only [rss, totalVm, pgd] at complete
              cases complete
          | ok pgdAddr => rfl

/-- An update that succeeds marks the statistics, or the task has none. -/
theorem updateMemUsage_complete (complete : (task.updateMemUsage kernel usage).2 = .ok ()) :
    (task.updateMemUsage kernel usage).1.memValid = true ∨ (task.updateMemUsage kernel usage).1 = usage := by
  simp only [updateMemUsage] at complete ⊢
  cases marked : usage.memValid with
  | true => exact .inr rfl
  | false =>
      cases gone : readEither (task.isZombie kernel) task.isExiting with
      | error error => exact .inr rfl
      | ok gone' =>
          cases gone' with
          | true => exact .inr rfl
          | false =>
              cases mm : task.taskStruct.mm with
              | error error => exact .inr rfl
              | ok mm' =>
                  simp only [marked, gone, mm] at complete ⊢
                  by_cases null : mm' = 0
                  · rw [if_neg Bool.false_ne_true, if_pos null]
                    exact .inl rfl
                  · rw [if_neg Bool.false_ne_true, if_neg null] at complete ⊢
                    exact .inl (readMemUsage_valid complete)

/-- An update that succeeds changes nothing when it is made again. -/
theorem updateMemUsage_again (complete : (task.updateMemUsage kernel {}).2 = .ok ()) :
    task.updateMemUsage kernel (task.updateMemUsage kernel {}).1 = task.updateMemUsage kernel {} := by
  rcases updateMemUsage_complete complete with valid | untouched
  · rw [updateMemUsage, if_pos valid, ← complete]
  · rw [untouched]

/-- An update of kept statistics gives what an update of none gives. -/
theorem Kept.update (kept : task.Kept kernel usage) :
    (task.updateMemUsage kernel usage).2 = (task.updateMemUsage kernel {}).2 ∧
      ((task.updateMemUsage kernel {}).2 = .ok () ->
        (task.updateMemUsage kernel usage).1 = (task.updateMemUsage kernel {}).1) := by
  cases kept with
  | fresh none =>
      rw [none]
      exact ⟨rfl, fun _ => rfl⟩
  | read complete same =>
      rw [same, updateMemUsage_again complete]
      exact ⟨rfl, fun _ => rfl⟩
  | failed error fails invalid =>
      refine ⟨(updateMemUsage_failed fails invalid).1.trans fails.symm, fun complete => ?_⟩
      cases fails.symm.trans complete

/-- An update keeps statistics that are kept. -/
theorem Kept.updated (kept : task.Kept kernel usage) : task.Kept kernel (task.updateMemUsage kernel usage).1 := by
  cases outcome : (task.updateMemUsage kernel {}).2 with
  | ok done => exact .read outcome (kept.update.2 outcome)
  | error error =>
      refine .failed error outcome ?_
      cases kept with
      | fresh none => exact (updateMemUsage_failed outcome (by rw [none])).2
      | read complete same => cases outcome.symm.trans complete
      | failed other fails invalid => exact (updateMemUsage_failed outcome invalid).2

end TaskObject
end Types
end CrashPython

import CrashPython.Commands.PsExecute
import CrashPython.Target.TaskSetup

namespace CrashPython
namespace Commands

open Library Types Target

/-!
# The command `ps` after the setup of the tasks

The threads that `ps` goes through are those for which `setup_tasks` has made the task objects.  What
a line says about the processors then follows from the run queues in the dump.
-/

/-- The threads as `setup_tasks` leaves them. -/
def sessionOf (target : SetupTarget) (kernel : TaskKernel) : PsTarget where
  kernel := kernel
  threads := target.threads.mapIdx fun place thread => ⟨thread.num, target.setupTasks.1.infos[place]?⟩
  different := by
    have nums : (target.threads.mapIdx fun place thread =>
        (⟨thread.num, target.setupTasks.1.infos[place]?⟩ : GdbThread)).map GdbThread.num =
          target.threads.map InferiorThread.num := by
      refine List.ext_getElem? fun place => ?_
      rw [List.getElem?_map, List.getElem?_mapIdx, List.getElem?_map]
      cases target.threads[place]? with
      | none => rfl
      | some thread => rfl
    rw [nums]
    exact target.different

variable {target : SetupTarget} {kernel : TaskKernel} {args : PsArgs}

/-- After a setup that went through, every thread has its task object. -/
theorem sessionOf_threads {objectOf : InferiorThread -> TaskObject}
    (ready : target.Ready objectOf target.setupTasks.1) :
    (sessionOf target kernel).threads = target.threads.map fun thread => ⟨thread.num, some (objectOf thread)⟩ := by
  refine List.ext_getElem? fun place => ?_
  rw [sessionOf]
  dsimp only
  rw [List.getElem?_mapIdx, List.getElem?_map, ready.infos, List.getElem?_map]
  cases target.threads[place]? with
  | none => rfl
  | some thread => rfl

/-- A common line begins with a mark exactly if the task is active. -/
theorem head_of_formatCommonLine {task : TaskObject} {usage : MemUsage} {state : String}
    {text : PyString} (formatted : args.formatCommonLine kernel task usage state = .ok text) :
    text.head? = some '>' <-> task.active = true := by
  rcases except_bind_ok.mp formatted with ⟨pid, _, formatted⟩
  rcases except_bind_ok.mp formatted with ⟨parentPid, _, formatted⟩
  rcases except_bind_ok.mp formatted with ⟨lastCpu, _, formatted⟩
  rcases except_bind_ok.mp formatted with ⟨name, _, formatted⟩
  rcases except_bind_ok.mp formatted with ⟨column4, _, formatted⟩
  have mark : (if task.active then ">".toList else " ".toList) = [if task.active then '>' else ' '] := by
    cases task.active with
    | true => rfl
    | false => rfl
  rw [mark] at formatted
  have line := Except.ok.inj formatted
  simp only [List.cons_append, List.append_assoc] at line
  rw [← line, List.head?_cons]
  cases task.active with
  | true => exact ⟨fun _ => rfl, fun _ => rfl⟩
  | false => exact ⟨fun impossible => absurd impossible (by decide), fun impossible => by cases impossible⟩

/-- After the setup no thread is without a key, and whatever commands came before, a line of `ps`
begins with the mark of a running task exactly if the run queue of a processor has the task of its
thread as the current one. -/
theorem ps_marks_running (target : SetupTarget) (kernel : TaskKernel) (completed : target.setupTasks.2 = .completed)
    (commands : List PsArgs) (args : PsArgs) (common : args.mode = .common) :
    (forall thread, thread ∈ (sessionOf target kernel).threads ->
      Exists fun key : Int => args.sort kernel thread = .ok key) ∧
    forall row, row ∈ PsTarget.rows
        ((sessionOf target kernel).execute args ((sessionOf target kernel).afterCommands commands)).1 ->
      (row.2.head? = some '>' <->
        Exists fun thread : InferiorThread => thread ∈ target.threads ∧ thread.num = row.1 ∧
          Exists fun cpu : Nat => target.RunsOn thread cpu) := by
  rcases SetupTarget.ready_of_completed completed with ⟨objectOf, ready⟩
  have needed := (SetupTarget.setupTasks_completed_iff.mp completed).2.2
  constructor
  · intro thread member
    rw [sessionOf_threads ready] at member
    rcases List.mem_map.mp member with ⟨inferior, inside, same⟩
    rcases (needed inferior inside).2.2.2 with ⟨pid, read⟩
    refine ⟨pid, ?_⟩
    rw [← same, PsArgs.sort]
    dsimp only
    rw [common, (ready.described inferior inside).taskStruct]
    exact read
  · intro row member
    rcases PsTarget.row_of_execute member with ⟨thread, task, listed, known, number, usage, state, formatted⟩
    rw [sessionOf_threads ready] at listed
    rcases List.mem_map.mp listed with ⟨inferior, inside, same⟩
    rw [← same] at known number
    cases known
    have described := ready.described inferior inside
    rw [PsArgs.formatOneTask, common] at formatted
    rw [head_of_formatCommonLine formatted, described.active]
    constructor
    · exact fun runs => ⟨inferior, inside, number.symm, runs⟩
    · rintro ⟨other, there, same, runs⟩
      rw [← List.inj_on_of_nodup_map target.different there inside (same.trans number)]
      exact runs

/-- The rows of a second `ps` over the idle tasks. -/
def idleRows : List (Nat × PyString) :=
  PsTarget.rows
    ((sessionOf idleTasks recentKernel).execute {} ((sessionOf idleTasks recentKernel).afterCommands [{}])).1

theorem ps_marks_running_idle : Exists fun row : Nat × PyString => row ∈ idleRows ∧ row.2.head? = some '>' ∧
    Exists fun thread : InferiorThread => thread ∈ idleTasks.threads ∧ thread.num = row.1 ∧
      Exists fun cpu : Nat => idleTasks.RunsOn thread cpu := by
  have inside : idleRows.get ⟨0, by decide⟩ ∈ idleRows := List.get_mem _ _
  have marked : (idleRows.get ⟨0, by decide⟩).2.head? = some '>' := by decide
  have marks := (ps_marks_running idleTasks recentKernel (by decide) [{}] {} rfl).2 _ inside
  exact ⟨_, inside, marked, marks.mp marked⟩

end Commands
end CrashPython

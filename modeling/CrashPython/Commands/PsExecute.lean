import CrashPython.Commands.Ps
import CrashPython.Library.Generator
import CrashPython.Library.Glob
import CrashPython.Library.StableSort
import CrashPython.Types.TaskObject

namespace CrashPython
namespace Commands

open Library Types

/-!
# The command `ps`

`PSCommand` of `crash/commands/ps.py` goes through the threads of gdb in the order of a key and prints
a line for each task that its options select, with a header before the first line.  The options are
turned into a key, a filter and a format by class `TaskFormat`.

Two things are kept from one command to the next: the names of the states, and the memory statistics
in the task objects.  The memory of a crashed kernel does not change, so what is kept is what would be
read again, and no command shows what an earlier one has done.
-/

/-- What ends a command early. -/
inductive PsStop where
  | task (error : TaskError)
  | state (error : PsError)
  | commandError (text : String)
deriving DecidableEq, Repr

/-- The options `-k`, `-u` and `-G`. -/
inductive PsSelection where
  | every
  | kernel
  | user
  | leaders
deriving DecidableEq, Repr

/-- The options `-s` and `-n`. -/
inductive PsColumn where
  | task
  | stack
  | threadNum
deriving DecidableEq, Repr

/-- The option `-l`, and those that are not implemented. -/
inductive PsMode where
  | common
  | lastRun
  | unimplemented
deriving DecidableEq, Repr

/-- The parsed arguments. -/
structure PsArgs where
  selection : PsSelection := .every
  column : PsColumn := .task
  mode : PsMode := .common
  args : List PyString := []
deriving DecidableEq, Repr

/-- A gdb thread, with its task object once the tasks are set up. -/
structure GdbThread where
  num : Nat
  info : Option TaskObject

/-- A printed line; that of a task has the number of the thread. -/
inductive PsLine where
  | header (text : PyString)
  | unknown (text : String)
  | row (num : Nat) (text : PyString)
  | noMatches (pattern : PyString)
deriving DecidableEq, Repr

/-- The text of a line. -/
def PsLine.text : PsLine -> String
  | .header text => String.ofList text
  | .unknown text => text
  | .row _ text => String.ofList text
  | .noMatches pattern => "No matches for " ++ String.ofList pattern ++ "."

/-- The threads of the inferior and the kernel.  Threads have different numbers. -/
structure PsTarget where
  kernel : TaskKernel
  threads : List GdbThread
  different : (threads.map GdbThread.num).Nodup

/-- What is kept: the attribute `task_states`, and the statistics in the task of each thread. -/
structure PsState where
  taskStates : List (Int × String) := []
  usage : Nat -> MemUsage := fun _ => {}

/-- An integer as `format` writes it. -/
def shownInt (value : Int) : PyString :=
  (toString value).toList

namespace PsArgs

variable (kernel : TaskKernel) (args : PsArgs)

/-- The compiled pattern. -/
def regex : Option (List GlobItem) :=
  args.args.head?.map globTranslate

/-- The attribute `sort`, for a thread. -/
def sort (thread : GdbThread) : Reading Int :=
  match thread.info with
  | none => .error .attributeError
  | some task =>
      match args.mode with
      | .lastRun => (task.lastRun kernel).map fun value => -value
      | _ => task.taskStruct.pid

/-- The attribute `_filter`. -/
def passesFilter (task : TaskObject) : Reading Bool :=
  match args.selection with
  | .every => .ok true
  | .kernel => task.isKernelTask kernel
  | .user => (task.isKernelTask kernel).map fun isKernel => !isKernel
  | .leaders => task.isThreadGroupLeader

/-- `should_print_task`. -/
def shouldPrintTask (task : TaskObject) : Reading Bool := do
  if ← args.passesFilter kernel task then
    match args.regex with
    | none => return true
    | some pattern => return globMatches pattern (← task.taskStruct.comm)
  else return false

/-- `_format_generic_header`. -/
def formatGenericHeader (col4name : PyString) (col4width : Nat) : PyString :=
  "    PID    PPID  CPU ".toList ++ PyString.center col4width col4name ++
    "  ST  %MEM     VSZ    RSS  COMM".toList

/-- `format_header`. -/
def formatHeader : PyString :=
  match args.mode with
  | .lastRun => []
  | _ =>
      match args.column with
      | .task => formatGenericHeader "TASK".toList 16
      | .stack => formatGenericHeader "KSTACK".toList 16
      | .threadNum => formatGenericHeader "THREAD#".toList 7

/-- The attribute `_format_column4`. -/
def formatColumn4 (task : TaskObject) : Reading PyString :=
  match args.column with
  | .task => .ok (PyString.padLeft ' ' 16 (PyString.digits 16 task.taskStruct.address))
  | .stack =>
      match task.area with
      | none => .error .attributeError
      | some area => area.stackPointer.map fun pointer => PyString.padLeft ' ' 16 (PyString.digits 16 pointer)
  | .threadNum =>
      match task.thread with
      | none => .error .attributeError
      | some num => .ok (PyString.padLeft ' ' 7 (PyString.digits 10 num))

/-- `_format_common_line`. -/
def formatCommonLine (task : TaskObject) (usage : MemUsage) (state : String) : Reading PyString := do
  let pid ← task.taskStruct.pid
  let parentPid ← task.taskStruct.parentPid
  let lastCpu ← task.getLastCpu kernel
  let name ← task.taskStruct.comm
  let totalVm := usage.totalVm * 4096 / 1024
  let rss := usage.rss * 4096 / 1024
  let column4 ← args.formatColumn4 task
  return (if task.active then ">".toList else " ".toList) ++ " ".toList ++
    PyString.padLeft ' ' 5 (shownInt pid) ++ "   ".toList ++ PyString.padLeft ' ' 5 (shownInt parentPid) ++
    "  ".toList ++ PyString.padLeft ' ' 3 (shownInt lastCpu) ++ "  ".toList ++ column4 ++
    " ".toList ++ PyString.padRight 3 state.toList ++ "  0.0 ".toList ++
    PyString.padLeft ' ' 7 (shownInt totalVm) ++ " ".toList ++ PyString.padLeft ' ' 6 (shownInt rss) ++
    "  ".toList ++ name

/-- `_format_last_run`. -/
def formatLastRun (task : TaskObject) (state : String) : Reading PyString := do
  let pid ← task.taskStruct.pid
  let lastCpu ← task.getLastCpu kernel
  let name ← task.taskStruct.comm
  let cpu := if task.active then task.cpu else lastCpu
  let lastRun ← task.lastRun kernel
  return "[".toList ++ shownInt lastRun ++ "] [".toList ++ state.toList ++ "]  PID: ".toList ++
    PyString.padLeft ' ' 5 (shownInt pid) ++ "  TASK: ".toList ++
    PyString.digits 16 task.taskStruct.address ++ " CPU: ".toList ++ PyString.padLeft ' ' 2 (shownInt cpu) ++
    "  COMMAND: \"".toList ++ name ++ "\"".toList

/-- `format_one_task`. -/
def formatOneTask (task : TaskObject) (usage : MemUsage) (state : String) : Reading PyString :=
  match args.mode with
  | .lastRun => formatLastRun kernel task state
  | _ => args.formatCommonLine kernel task usage state

/-- The lines of a task whose statistics are up to date. -/
def taskLines (taskStates : List (Int × String)) (num : Nat) (task : TaskObject) (usage : MemUsage) :
    Run PsLine PsStop :=
  match task.readState kernel with
  | .error error => ⟨[], .raised (.task error)⟩
  | .ok state =>
      match taskStateString kernel.flags taskStates state with
      | .error error => ⟨[], .raised (.state error)⟩
      | .ok shown =>
          match args.formatOneTask kernel task usage shown.buf with
          | .error error => ⟨shown.printed.map .unknown, .raised (.task error)⟩
          | .ok line => ⟨shown.printed.map .unknown ++ [.row num line], .completed⟩

/-- What a command does with a task that it selects. -/
def printTask (taskStates : List (Int × String)) (num : Nat) (task : TaskObject) (usage : MemUsage) :
    Run PsLine PsStop × MemUsage :=
  match task.updateMemUsage kernel usage with
  | (later, .error error) => (⟨[], .raised (.task error)⟩, later)
  | (later, .ok ()) => (args.taskLines kernel taskStates num task later, later)

end PsArgs

/-- The header, where it is not empty. -/
def headerLines (header : PyString) : List PsLine :=
  if header = [] then [] else [.header header]

/-- The loop of `execute` over the sorted threads, from what is left of the header and some number of
lines. -/
def listTasks (kernel : TaskKernel) (args : PsArgs) (taskStates : List (Int × String)) :
    List GdbThread -> PyString -> Nat -> (Nat -> MemUsage) -> Run PsLine PsStop × Nat × (Nat -> MemUsage)
  | [], _, count, usage => (⟨[], .completed⟩, count, usage)
  | thread :: rest, header, count, usage =>
      match thread.info with
      | none => listTasks kernel args taskStates rest header count usage
      | some task =>
          match args.shouldPrintTask kernel task with
          | .error error => (⟨[], .raised (.task error)⟩, count, usage)
          | .ok false => listTasks kernel args taskStates rest header count usage
          | .ok true =>
              let front := headerLines header
              let printed := args.printTask kernel taskStates thread.num task (usage thread.num)
              let later := Function.update usage thread.num printed.2
              match printed.1.ending with
              | .raised _ => (printed.1.after front, count, later)
              | .completed =>
                  let others := listTasks kernel args taskStates rest [] (count + 1) later
                  (others.1.after (front ++ printed.1.events), others.2)

namespace PsTarget

variable (target : PsTarget)

/-- The attribute `task_states`, set up if it is empty. -/
def taskStates (state : PsState) : List (Int × String) :=
  if state.taskStates = [] then setupTaskStates target.kernel.flags else state.taskStates

/-- `execute`. -/
def execute (args : PsArgs) (state : PsState) : Run PsLine PsStop × PsState :=
  if args.mode = .unimplemented then
    (⟨[], .raised (.commandError "Support for the -p, -c, -t, -a, -g, and -r options is unimplemented.")⟩, state)
  else
    let taskStates := target.taskStates state
    match sortedByKeys (args.sort target.kernel) target.threads with
    | .error error => (⟨[], .raised (.task error)⟩, ⟨taskStates, state.usage⟩)
    | .ok threads =>
        let listed := listTasks target.kernel args taskStates threads args.formatHeader 0 state.usage
        let final : Run PsLine PsStop :=
          if listed.2.1 ≠ 0 then ⟨[], .completed⟩
          else match args.args with
            | pattern :: _ => ⟨[.noMatches pattern], .completed⟩
            | [] => ⟨[], .raised (.commandError "Unfiltered output has no matches. BUG?")⟩
        (listed.1.followedBy final, ⟨taskStates, listed.2.2⟩)

/-- What is kept after some commands. -/
def afterCommands (commands : List PsArgs) : PsState :=
  commands.foldl (fun state args => (target.execute args state).2) {}

/-! ## What is to be listed -/

/-- The key of a thread. -/
def keyOf (args : PsArgs) (thread : GdbThread) : Int :=
  (args.sort target.kernel thread).toOption.getD 0

/-- The options select a thread. -/
def chosen (args : PsArgs) (thread : GdbThread) : Bool :=
  match thread.info with
  | none => false
  | some task => (args.shouldPrintTask target.kernel task).toOption == some true

/-- What is printed for a task without earlier commands. -/
def rowOf (args : PsArgs) (num : Nat) (task : TaskObject) : Run PsLine PsStop :=
  (args.printTask target.kernel (setupTaskStates target.kernel.flags) num task {}).1

/-- The lines of a thread. -/
def linesOf (args : PsArgs) (thread : GdbThread) : List PsLine :=
  match thread.info with
  | none => []
  | some task => (target.rowOf args thread.num task).events

/-- Everything about a task that a command needs can be read. -/
def Printable (args : PsArgs) (thread : GdbThread) : Prop :=
  forall task, thread.info = some task ->
    Exists fun answer : Bool => args.shouldPrintTask target.kernel task = .ok answer ∧
      (answer = true -> (target.rowOf args thread.num task).ending = .completed)

/-- The threads of a command in the order of their lines. -/
def listed (args : PsArgs) : List GdbThread :=
  sortedBy (target.keyOf args) (target.threads.filter (target.chosen args))

/-- The lines of a command. -/
def expected (args : PsArgs) : List PsLine :=
  if target.listed args = [] then (args.args.take 1).map .noMatches
  else headerLines args.formatHeader ++
    (target.listed args).flatMap (target.linesOf args)

/-- The memory statistics of each thread are kept. -/
def UsageKept (usage : Nat -> MemUsage) : Prop :=
  forall thread, thread ∈ target.threads -> forall task, thread.info = some task ->
    task.Kept target.kernel (usage thread.num)

/-- The names of the states and the statistics are what would be read again. -/
structure Kept (state : PsState) : Prop where
  states : state.taskStates = [] ∨ state.taskStates = setupTaskStates target.kernel.flags
  usage : target.UsageKept state.usage

variable {target} {args : PsArgs} {state : PsState}

theorem thread_of_num {one two : GdbThread} (here : one ∈ target.threads) (there : two ∈ target.threads)
    (same : one.num = two.num) : one = two :=
  List.inj_on_of_nodup_map target.different here there same

/-- A task with kept statistics is printed as one with none. -/
theorem printTask_kept (args : PsArgs) (taskStates : List (Int × String)) (num : Nat) {task : TaskObject}
    {usage : MemUsage} (kept : task.Kept target.kernel usage) :
    (args.printTask target.kernel taskStates num task usage).1 =
        (args.printTask target.kernel taskStates num task {}).1 ∧
      task.Kept target.kernel (args.printTask target.kernel taskStates num task usage).2 := by
  have same := kept.update
  have later := kept.updated
  simp only [PsArgs.printTask]
  generalize task.updateMemUsage target.kernel {} = fresh at same
  generalize task.updateMemUsage target.kernel usage = used at same later
  rcases fresh with ⟨fresh, outcome⟩
  rcases used with ⟨used, other⟩
  rcases same with ⟨outcomes, equal⟩
  change other = outcome at outcomes
  subst outcomes
  cases other with
  | error error => exact ⟨rfl, later⟩
  | ok done =>
      have values : used = fresh := equal rfl
      rw [values] at later ⊢
      exact ⟨rfl, later⟩

/-- The statistics of one thread are replaced by kept ones. -/
theorem UsageKept.update {usage : Nat -> MemUsage} (kept : target.UsageKept usage) {thread : GdbThread}
    (inside : thread ∈ target.threads) {task : TaskObject} (known : thread.info = some task) {later : MemUsage}
    (here : task.Kept target.kernel later) : target.UsageKept (Function.update usage thread.num later) := by
  intro other listed object found
  by_cases same : other.num = thread.num
  · rw [thread_of_num listed inside same] at found ⊢
    rw [known] at found
    cases found
    rw [Function.update_self]
    exact here
  · rw [Function.update_of_ne same]
    exact kept other listed object found

section Loop

variable {taskStates : List (Int × String)} {thread : GdbThread} {rest : List GdbThread} {header : PyString}
  {count : Nat} {usage : Nat -> MemUsage}

theorem listTasks_passed (passed : forall task, thread.info = some task ->
      args.shouldPrintTask target.kernel task = .ok false) :
    listTasks target.kernel args taskStates (thread :: rest) header count usage =
      listTasks target.kernel args taskStates rest header count usage := by
  rw [listTasks]
  cases known : thread.info with
  | none => rfl
  | some task =>
      dsimp only
      rw [passed task known]

theorem listTasks_unreadable {task : TaskObject} (known : thread.info = some task) {error : TaskError}
    (asked : args.shouldPrintTask target.kernel task = .error error) :
    listTasks target.kernel args taskStates (thread :: rest) header count usage =
      (⟨[], .raised (.task error)⟩, count, usage) := by
  rw [listTasks, known]
  dsimp only
  rw [asked]

theorem listTasks_printed {task : TaskObject} (known : thread.info = some task)
    (asked : args.shouldPrintTask target.kernel task = .ok true) {run : Run PsLine PsStop} {later : MemUsage}
    (printed : args.printTask target.kernel taskStates thread.num task (usage thread.num) = (run, later))
    (completed : run.ending = .completed) :
    listTasks target.kernel args taskStates (thread :: rest) header count usage =
      ((listTasks target.kernel args taskStates rest [] (count + 1) (Function.update usage thread.num later)).1.after
          (headerLines header ++ run.events),
        (listTasks target.kernel args taskStates rest [] (count + 1) (Function.update usage thread.num later)).2) := by
  rw [listTasks, known]
  dsimp only
  rw [asked, printed]
  dsimp only
  rw [completed]

theorem listTasks_raised {task : TaskObject} (known : thread.info = some task)
    (asked : args.shouldPrintTask target.kernel task = .ok true) {run : Run PsLine PsStop} {later : MemUsage}
    (printed : args.printTask target.kernel taskStates thread.num task (usage thread.num) = (run, later))
    {error : PsStop} (raised : run.ending = .raised error) :
    listTasks target.kernel args taskStates (thread :: rest) header count usage =
      (run.after (headerLines header), count, Function.update usage thread.num later) := by
  rw [listTasks, known]
  dsimp only
  rw [asked, printed]
  dsimp only
  rw [raised]

end Loop

/-- A thread is passed over, or it can not be read whether it is selected, or it is selected. -/
theorem asked_cases (kernel : TaskKernel) (args : PsArgs) (thread : GdbThread) :
    (forall task, thread.info = some task -> args.shouldPrintTask kernel task = .ok false) ∨
      (Exists fun task : TaskObject => Exists fun error : TaskError =>
        thread.info = some task ∧ args.shouldPrintTask kernel task = .error error) ∨
      Exists fun task : TaskObject => thread.info = some task ∧ args.shouldPrintTask kernel task = .ok true := by
  cases known : thread.info with
  | none => exact .inl fun task impossible => by cases impossible
  | some task =>
      cases asked : args.shouldPrintTask kernel task with
      | error error => exact .inr (.inl ⟨task, error, rfl, asked⟩)
      | ok answer =>
          cases answer with
          | false => exact .inl fun other same => by cases same; exact asked
          | true => exact .inr (.inr ⟨task, rfl, asked⟩)

/-- Two commands that find kept statistics print the same, and they keep them. -/
theorem listTasks_kept (args : PsArgs) (taskStates : List (Int × String)) {threads : List GdbThread}
    (inside : forall thread, thread ∈ threads -> thread ∈ target.threads) (header : PyString) (count : Nat)
    {one two : Nat -> MemUsage} (left : target.UsageKept one) (right : target.UsageKept two) :
    (listTasks target.kernel args taskStates threads header count one).1 =
        (listTasks target.kernel args taskStates threads header count two).1 ∧
      (listTasks target.kernel args taskStates threads header count one).2.1 =
        (listTasks target.kernel args taskStates threads header count two).2.1 ∧
      target.UsageKept (listTasks target.kernel args taskStates threads header count one).2.2 := by
  induction threads generalizing header count one two with
  | nil => exact ⟨rfl, rfl, left⟩
  | cons thread rest inductionHypothesis =>
      have here := inside thread List.mem_cons_self
      have others : forall thread, thread ∈ rest -> thread ∈ target.threads :=
        fun other member => inside other (List.mem_cons_of_mem thread member)
      rcases asked_cases target.kernel args thread with passed | ⟨task, error, known, asked⟩ | ⟨task, known, asked⟩
      · rw [listTasks_passed passed, listTasks_passed passed]
        exact inductionHypothesis others header count left right
      · rw [listTasks_unreadable known asked, listTasks_unreadable known asked]
        exact ⟨rfl, rfl, left⟩
      · have first := printTask_kept args taskStates thread.num (left thread here task known)
        have second := printTask_kept args taskStates thread.num (right thread here task known)
        cases one' : args.printTask target.kernel taskStates thread.num task (one thread.num) with
        | mk run later =>
        cases two' : args.printTask target.kernel taskStates thread.num task (two thread.num) with
        | mk run' after =>
        rw [one'] at first
        rw [two'] at second
        have same : run' = run := second.1.trans first.1.symm
        rw [same] at two'
        have firstKept := left.update here known first.2
        have secondKept := right.update here known second.2
        cases ended : run.ending with
        | raised error =>
            rw [listTasks_raised known asked one' ended, listTasks_raised known asked two' ended]
            exact ⟨rfl, rfl, firstKept⟩
        | completed =>
            rw [listTasks_printed known asked one' ended, listTasks_printed known asked two' ended]
            rcases inductionHypothesis others [] (count + 1) firstKept secondKept with ⟨runs, number, kept⟩
            exact ⟨congrArg (Run.after _) runs, number, kept⟩

/-- A thread that is not printed. -/
theorem passed_of_printable {thread : GdbThread} (printable : target.Printable args thread)
    (refused : target.chosen args thread = false) :
    forall task, thread.info = some task -> args.shouldPrintTask target.kernel task = .ok false := by
  intro task known
  rcases printable task known with ⟨answer, asked, _⟩
  rw [chosen, known] at refused
  dsimp only at refused
  rw [asked] at refused ⊢
  cases answer with
  | false => rfl
  | true => cases refused

theorem chosen_iff {thread : GdbThread} : target.chosen args thread = true <->
    Exists fun task : TaskObject => thread.info = some task ∧ args.shouldPrintTask target.kernel task = .ok true := by
  rw [chosen]
  cases thread.info with
  | none => exact ⟨fun impossible => (by cases impossible), fun ⟨task, known, _⟩ => (by cases known)⟩
  | some task =>
      dsimp only
      constructor
      · intro asked
        refine ⟨task, rfl, ?_⟩
        cases answer : args.shouldPrintTask target.kernel task with
        | error error =>
            rw [answer] at asked
            cases asked
        | ok answer' =>
            rw [answer] at asked
            cases answer' with
            | false => cases asked
            | true => rfl
      · rintro ⟨other, known, asked⟩
        cases known
        rw [asked]
        rfl

/-- A selected thread is printable exactly if its row goes through. -/
theorem printable_iff_of_asked {thread : GdbThread} {task : TaskObject} (known : thread.info = some task)
    (asked : args.shouldPrintTask target.kernel task = .ok true) :
    target.Printable args thread <-> (target.rowOf args thread.num task).ending = .completed := by
  constructor
  · intro printable
    rcases printable task known with ⟨answer, found, completes⟩
    rw [asked] at found
    cases found
    exact completes rfl
  · intro completed object found
    cases known.symm.trans found
    exact ⟨true, asked, fun _ => completed⟩

/-- A thread that is neither selected nor printable is one of which that can not be read. -/
theorem unreadable_of_refused {thread : GdbThread} (refused : target.chosen args thread = false)
    (hidden : ¬ target.Printable args thread) :
    Exists fun task : TaskObject => Exists fun error : TaskError =>
      thread.info = some task ∧ args.shouldPrintTask target.kernel task = .error error := by
  rcases asked_cases target.kernel args thread with passed | unreadable | ⟨task, known, asked⟩
  · exact absurd (fun task known => ⟨false, passed task known, fun impossible => (by cases impossible)⟩) hidden
  · exact unreadable
  · cases refused.symm.trans (chosen_iff.mpr ⟨task, known, asked⟩)

/-- The loop goes through exactly if everything can be read, and it then prints the lines of the
selected threads, behind the header. -/
theorem listTasks_lines (args : PsArgs) {threads : List GdbThread}
    (inside : forall thread, thread ∈ threads -> thread ∈ target.threads) (header : PyString) (count : Nat)
    {usage : Nat -> MemUsage} (kept : target.UsageKept usage) :
    ((listTasks target.kernel args (setupTaskStates target.kernel.flags) threads header count usage).1.ending =
        .completed <-> forall thread, thread ∈ threads -> target.Printable args thread) ∧
      ((forall thread, thread ∈ threads -> target.Printable args thread) ->
        (listTasks target.kernel args (setupTaskStates target.kernel.flags) threads header count usage).1.events =
            (if threads.filter (target.chosen args) = [] then [] else headerLines header) ++
              (threads.filter (target.chosen args)).flatMap (target.linesOf args) ∧
          (listTasks target.kernel args (setupTaskStates target.kernel.flags) threads header count usage).2.1 =
            count + (threads.filter (target.chosen args)).length) := by
  induction threads generalizing header count usage with
  | nil =>
      refine ⟨⟨fun _ thread member => False.elim (List.not_mem_nil member), fun _ => rfl⟩, fun _ => ⟨?_, rfl⟩⟩
      rw [List.filter_nil, if_pos rfl]
      rfl
  | cons thread rest inductionHypothesis =>
      have here := inside thread List.mem_cons_self
      have others : forall thread, thread ∈ rest -> thread ∈ target.threads :=
        fun other member => inside other (List.mem_cons_of_mem thread member)
      rw [List.forall_mem_cons, List.filter_cons]
      cases picked : target.chosen args thread with
      | true =>
          rcases chosen_iff.mp picked with ⟨task, known, asked⟩
          have row := printTask_kept args (setupTaskStates target.kernel.flags) thread.num
            (kept thread here task known)
          cases printed : args.printTask target.kernel (setupTaskStates target.kernel.flags) thread.num task
              (usage thread.num) with
          | mk run later =>
          rw [printed] at row
          have same : run = target.rowOf args thread.num task := row.1
          have printable : target.Printable args thread <-> run.ending = .completed := by
            rw [same]
            exact printable_iff_of_asked known asked
          have lines : target.linesOf args thread = run.events := by
            rw [linesOf, known, same]
          rw [printable, if_pos rfl]
          cases ended : run.ending with
          | raised error =>
              rw [listTasks_raised known asked printed ended]
              change ((run.ending = .completed) <-> _) ∧ _
              rw [ended]
              exact ⟨⟨fun impossible => (by cases impossible), fun both => both.1⟩, fun both => by cases both.1⟩
          | completed =>
              rcases inductionHypothesis others [] (count + 1) (kept.update here known row.2)
                with ⟨completes, prints⟩
              rw [listTasks_printed known asked printed ended]
              refine ⟨⟨fun completed => ⟨rfl, completes.mp completed⟩, fun both => completes.mpr both.2⟩,
                fun both => ?_⟩
              rcases prints both.2 with ⟨events, number⟩
              constructor
              · have nothing : (if rest.filter (target.chosen args) = [] then [] else headerLines []) = [] :=
                  ite_self _
                rw [nothing, List.nil_append] at events
                rw [if_neg (List.cons_ne_nil _ _), List.flatMap_cons, lines, ← List.append_assoc, ← events]
                rfl
              · rw [number, List.length_cons]
                omega
      | false =>
          rw [if_neg Bool.false_ne_true]
          by_cases printable : target.Printable args thread
          · rw [listTasks_passed (passed_of_printable printable picked)]
            rcases inductionHypothesis others header count kept with ⟨completes, prints⟩
            exact ⟨⟨fun completed => ⟨printable, completes.mp completed⟩, fun both => completes.mpr both.2⟩,
              fun both => prints both.2⟩
          · rcases unreadable_of_refused picked printable with ⟨task, error, known, asked⟩
            rw [listTasks_unreadable known asked]
            exact ⟨⟨fun impossible => (by cases impossible), fun both => absurd both.1 printable⟩,
              fun both => absurd both.1 printable⟩

/-! ## The command as a whole -/

theorem kept_start : target.Kept {} where
  states := .inl rfl
  usage := fun _ _ _ _ => .fresh rfl

theorem taskStates_kept (kept : target.Kept state) :
    target.taskStates state = setupTaskStates target.kernel.flags := by
  rw [taskStates]
  rcases kept.states with none | known
  · rw [if_pos none]
  · rw [known, ite_self]

/-- The keys of the threads. -/
theorem sort_keyOf {thread : GdbThread}
    (readable : Exists fun key : Int => args.sort target.kernel thread = .ok key) :
    args.sort target.kernel thread = .ok (target.keyOf args thread) := by
  rcases readable with ⟨key, found⟩
  rw [keyOf, found]
  rfl

theorem sorted_threads {threads : List GdbThread}
    (sorted : sortedByKeys (args.sort target.kernel) target.threads = .ok threads) :
    threads = sortedBy (target.keyOf args) target.threads := by
  have keys := sortedByKeys_of_found (target.keyOf args) fun thread member =>
    sort_keyOf (found_of_sortedByKeys sorted thread member)
  exact Except.ok.inj (sorted.symm.trans keys)

theorem sorted_inside {threads : List GdbThread}
    (sorted : sortedByKeys (args.sort target.kernel) target.threads = .ok threads) :
    forall thread, thread ∈ threads -> thread ∈ target.threads := by
  intro thread member
  rw [sorted_threads sorted] at member
  exact mem_sortedBy.mp member

/-- What a command keeps is kept. -/
theorem execute_kept (kept : target.Kept state) :
    (target.execute args state).1 = (target.execute args {}).1 ∧ target.Kept (target.execute args state).2 := by
  simp only [execute]
  rw [taskStates_kept kept, taskStates_kept kept_start]
  by_cases unimplemented : args.mode = .unimplemented
  · rw [if_pos unimplemented, if_pos unimplemented]
    exact ⟨rfl, kept⟩
  · rw [if_neg unimplemented, if_neg unimplemented]
    cases sorted : sortedByKeys (args.sort target.kernel) target.threads with
    | error error => exact ⟨rfl, .inr rfl, kept.usage⟩
    | ok threads =>
        rcases listTasks_kept args (setupTaskStates target.kernel.flags)
          (sorted_inside sorted) args.formatHeader 0 kept.usage kept_start.usage with
          ⟨run, number, later⟩
        dsimp only
        rw [run, number]
        exact ⟨rfl, .inr rfl, later⟩

theorem afterCommands_kept (commands : List PsArgs) : target.Kept (target.afterCommands commands) := by
  induction commands using List.reverseRecOn with
  | nil => exact kept_start
  | append_singleton commands args inductionHypothesis =>
      rw [afterCommands, List.foldl_append]
      exact (execute_kept inductionHypothesis).2

/-- No command shows what earlier ones have done: it prints and ends as the first one would. -/
theorem execute_after_commands (target : PsTarget) (commands : List PsArgs) (args : PsArgs) :
    (target.execute args (target.afterCommands commands)).1 = (target.execute args {}).1 :=
  (execute_kept (afterCommands_kept commands)).1

/-- A command goes through exactly if it is implemented, the keys of all threads and whatever a line
needs can be read, and a thread is selected or a pattern given.  It then prints its lines. -/
theorem execute_completed : ((target.execute args {}).1.ending = .completed <->
      args.mode ≠ .unimplemented ∧
        (forall thread, thread ∈ target.threads ->
          (Exists fun key : Int => args.sort target.kernel thread = .ok key) ∧ target.Printable args thread) ∧
        (target.listed args ≠ [] ∨ args.args ≠ [])) ∧
    ((target.execute args {}).1.ending = .completed -> (target.execute args {}).1.events = target.expected args) := by
  simp only [execute]
  rw [taskStates_kept kept_start]
  by_cases unimplemented : args.mode = .unimplemented
  · rw [if_pos unimplemented]
    exact ⟨⟨fun impossible => (by cases impossible), fun all => absurd unimplemented all.1⟩,
      fun impossible => by cases impossible⟩
  · rw [if_neg unimplemented]
    cases sorted : sortedByKeys (args.sort target.kernel) target.threads with
    | error error =>
        refine ⟨⟨fun impossible => (by cases impossible), fun all => ?_⟩, fun impossible => by cases impossible⟩
        have keys := sortedByKeys_of_found (target.keyOf args) fun thread member =>
          sort_keyOf (all.2.1 thread member).1
        cases sorted.symm.trans keys
    | ok threads =>
        have shape := sorted_threads sorted
        have readable := found_of_sortedByKeys sorted
        have filtered : threads.filter (target.chosen args) = target.listed args := by
          rw [shape, filter_sortedBy]
          rfl
        have all : (forall thread, thread ∈ threads -> target.Printable args thread) <->
            forall thread, thread ∈ target.threads -> target.Printable args thread := by
          rw [shape]
          exact forall_congr' fun thread => by rw [mem_sortedBy]
        rcases listTasks_lines args (sorted_inside sorted) args.formatHeader 0
          kept_start.usage with ⟨completes, prints⟩
        rw [filtered] at prints
        rw [all] at completes prints
        dsimp only
        generalize listTasks target.kernel args (setupTaskStates target.kernel.flags) threads args.formatHeader 0
          (PsState.usage {}) = loop at completes prints
        rcases loop with ⟨run, count, usage⟩
        dsimp only at completes prints ⊢
        cases ended : run.ending with
        | raised error =>
            rw [Run.followedBy_of_raised ended, ended]
            refine ⟨⟨fun impossible => (by cases impossible), fun all => ?_⟩, fun impossible => by cases impossible⟩
            cases ended.symm.trans (completes.mpr fun thread member => (all.2.1 thread member).2)
        | completed =>
            have printable := completes.mp ended
            have every : forall thread, thread ∈ target.threads ->
                (Exists fun key : Int => args.sort target.kernel thread = .ok key) ∧ target.Printable args thread :=
              fun thread member => ⟨readable thread member, printable thread member⟩
            rcases prints printable with ⟨events, number⟩
            rw [Run.followedBy_of_completed ended, number, Nat.zero_add, expected]
            by_cases nothing : target.listed args = []
            · rw [if_pos nothing, nothing, List.flatMap_nil, List.append_nil] at events
              rw [nothing, List.length_nil, if_neg (not_not.mpr rfl), if_pos rfl, events]
              cases args.args with
              | nil =>
                  refine ⟨⟨fun impossible => (by cases impossible), fun all => ?_⟩,
                    fun impossible => by cases impossible⟩
                  rcases all.2.2 with absent | absent
                  · exact absurd rfl absent
                  · exact absurd rfl absent
              | cons pattern rest =>
                  exact ⟨⟨fun _ => ⟨unimplemented, every, .inr (List.cons_ne_nil _ _)⟩, fun _ => rfl⟩,
                    fun _ => rfl⟩
            · rw [if_neg nothing] at events
              have some : (target.listed args).length ≠ 0 := fun zero => nothing (List.eq_nil_of_length_eq_zero zero)
              rw [if_pos some, if_neg nothing, events]
              exact ⟨⟨fun _ => ⟨unimplemented, every, .inl nothing⟩, fun _ => rfl⟩, fun _ => List.append_nil _⟩

/-- After any commands, a command goes through exactly if it is implemented, the keys of all threads
and whatever a line needs can be read, and a thread is selected or a pattern given.  It then prints
the lines of the selected threads in the order of their keys, threads with the same key in the order
of gdb, behind one header if there are any. -/
theorem execute_lists (target : PsTarget) (commands : List PsArgs) (args : PsArgs) :
    ((target.execute args (target.afterCommands commands)).1.ending = .completed <->
      args.mode ≠ .unimplemented ∧
        (forall thread, thread ∈ target.threads ->
          (Exists fun key : Int => args.sort target.kernel thread = .ok key) ∧ target.Printable args thread) ∧
        (target.listed args ≠ [] ∨ args.args ≠ [])) ∧
    ((target.execute args (target.afterCommands commands)).1.ending = .completed ->
      (target.execute args (target.afterCommands commands)).1.events = target.expected args ∧
        (target.listed args).Perm (target.threads.filter (target.chosen args)) ∧
        (target.listed args).Pairwise (fun first second => target.keyOf args first ≤ target.keyOf args second) ∧
        forall key, (target.listed args).filter (fun thread => target.keyOf args thread == key) =
          (target.threads.filter (target.chosen args)).filter fun thread => target.keyOf args thread == key) := by
  rw [(execute_kept (afterCommands_kept commands)).1]
  refine ⟨execute_completed.1, fun completed => ⟨execute_completed.2 completed, ?_, ?_, ?_⟩⟩
  · exact perm_sortedBy _
  · exact pairwise_sortedBy _ _
  · exact fun key => filter_sortedBy_key key _

/-! ## Kernel threads and user tasks -/

/-- The thread and the text of a row. -/
def rowIn : PsLine -> Option (Nat × PyString)
  | .row num text => some (num, text)
  | _ => none

/-- The rows that a command prints. -/
def rows (run : Run PsLine PsStop) : List (Nat × PyString) :=
  run.events.filterMap rowIn

theorem rowIn_unknown (printed : List String) : (printed.map PsLine.unknown).filterMap rowIn = [] := by
  rw [List.filterMap_map, List.filterMap_eq_nil_iff]
  exact fun _ _ => rfl

/-- The row of a task has the number of its thread and the text of its format. -/
theorem row_of_taskLines {kernel : TaskKernel} {taskStates : List (Int × String)} {num : Nat} {task : TaskObject}
    {usage : MemUsage} {row : Nat × PyString}
    (member : row ∈ (args.taskLines kernel taskStates num task usage).events.filterMap rowIn) :
    row.1 = num ∧ Exists fun state : String => args.formatOneTask kernel task usage state = .ok row.2 := by
  rw [PsArgs.taskLines] at member
  split at member
  · cases member
  · split at member
    · cases member
    · split at member
      · rw [rowIn_unknown] at member
        cases member
      · rename_i shown line formatted
        rw [List.filterMap_append, rowIn_unknown, List.nil_append] at member
        rw [List.mem_singleton.mp member]
        exact ⟨rfl, _, formatted⟩

theorem row_of_printTask {kernel : TaskKernel} {taskStates : List (Int × String)} {num : Nat} {task : TaskObject}
    {usage : MemUsage} {row : Nat × PyString}
    (member : row ∈ (args.printTask kernel taskStates num task usage).1.events.filterMap rowIn) :
    row.1 = num ∧ Exists fun usage : MemUsage => Exists fun state : String =>
      args.formatOneTask kernel task usage state = .ok row.2 := by
  rw [PsArgs.printTask] at member
  split at member
  · cases member
  · rcases row_of_taskLines member with ⟨same, state, formatted⟩
    exact ⟨same, _, state, formatted⟩

theorem num_of_linesOf {thread : GdbThread} {row : Nat × PyString}
    (member : row ∈ (target.linesOf args thread).filterMap rowIn) : row.1 = thread.num := by
  rw [linesOf] at member
  split at member
  · cases member
  · exact (row_of_printTask member).1

theorem rowIn_headerLines (header : PyString) : (headerLines header).filterMap rowIn = [] := by
  rw [headerLines]
  split
  · rfl
  · rfl

/-- A row is what the format makes of a thread with some memory statistics and some state. -/
def RowOf (kernel : TaskKernel) (args : PsArgs) (threads : List GdbThread) (row : Nat × PyString) : Prop :=
  Exists fun thread : GdbThread => Exists fun task : TaskObject =>
    thread ∈ threads ∧ thread.info = some task ∧ row.1 = thread.num ∧
      Exists fun usage : MemUsage => Exists fun state : String =>
        args.formatOneTask kernel task usage state = .ok row.2

theorem RowOf.mono {kernel : TaskKernel} {some all : List GdbThread} {row : Nat × PyString}
    (rowOf : RowOf kernel args some row) (inside : forall thread, thread ∈ some -> thread ∈ all) :
    RowOf kernel args all row := by
  rcases rowOf with ⟨thread, task, listed, found⟩
  exact ⟨thread, task, inside thread listed, found⟩

/-- Each row that the loop prints, however it ends, is that of a thread. -/
theorem row_of_listTasks {kernel : TaskKernel} {taskStates : List (Int × String)} {threads : List GdbThread}
    {header : PyString} {count : Nat} {usage : Nat -> MemUsage} {row : Nat × PyString}
    (member : row ∈ rows (listTasks kernel args taskStates threads header count usage).1) :
    RowOf kernel args threads row := by
  induction threads generalizing header count usage with
  | nil => cases member
  | cons thread rest inductionHypothesis =>
      have further : forall {header count usage},
          row ∈ rows (listTasks kernel args taskStates rest header count usage).1 ->
          RowOf kernel args (thread :: rest) row :=
        fun later => (inductionHypothesis later).mono fun other => List.mem_cons_of_mem thread
      rw [listTasks] at member
      split at member
      · exact further member
      · rename_i task known
        split at member
        · cases member
        · exact further member
        · dsimp only at member
          split at member
          · rw [rows] at member
            change row ∈ (headerLines header ++ _).filterMap rowIn at member
            rw [List.filterMap_append, rowIn_headerLines, List.nil_append] at member
            exact ⟨thread, task, List.mem_cons_self, known, row_of_printTask member⟩
          · rw [rows] at member
            change row ∈ ((headerLines header ++ _) ++ _).filterMap rowIn at member
            rw [List.filterMap_append, List.filterMap_append, rowIn_headerLines, List.nil_append] at member
            rcases List.mem_append.mp member with here | later
            · exact ⟨thread, task, List.mem_cons_self, known, row_of_printTask here⟩
            · exact further later

/-- Each row of a command is that of a thread. -/
theorem row_of_execute {row : Nat × PyString} (member : row ∈ rows (target.execute args state).1) :
    RowOf target.kernel args target.threads row := by
  rw [rows, execute] at member
  split at member
  · cases member
  · dsimp only at member
    split at member
    · cases member
    · rename_i threads sorted
      rcases List.mem_filterMap.mp member with ⟨line, printed, isRow⟩
      rcases Run.mem_followedBy printed with listed | last
      · exact (row_of_listTasks (List.mem_filterMap.mpr ⟨line, listed, isRow⟩)).mono (sorted_inside sorted)
      · split at last
        · cases last
        · split at last
          · rw [List.mem_singleton.mp last] at isRow
            cases isRow
          · cases last

theorem rows_expected : (target.expected args).filterMap rowIn =
    (target.listed args).flatMap fun thread => (target.linesOf args thread).filterMap rowIn := by
  rw [expected]
  by_cases nothing : target.listed args = []
  · rw [if_pos nothing, nothing, List.flatMap_nil, List.filterMap_map, List.filterMap_eq_nil_iff]
    exact fun _ _ => rfl
  · rw [if_neg nothing, List.filterMap_append, rowIn_headerLines, List.nil_append, List.filterMap_flatMap]

/-- The threads whose task is one of the kernel, by their numbers. -/
def isKernel (target : PsTarget) (num : Nat) : Bool :=
  target.threads.any fun thread => decide (thread.num = num) &&
    match thread.info with
    | none => false
    | some task => (task.isKernelTask target.kernel).toOption == some true

theorem isKernel_of_read {thread : GdbThread} (inside : thread ∈ target.threads) {task : TaskObject}
    (known : thread.info = some task) {answer : Bool} (read : task.isKernelTask target.kernel = .ok answer) :
    target.isKernel thread.num = answer := by
  have here : (match thread.info with
      | none => false
      | some task => (task.isKernelTask target.kernel).toOption == some true) = answer := by
    rw [known]
    dsimp only
    rw [read]
    cases answer with
    | true => rfl
    | false => rfl
  cases answer with
  | true =>
      refine List.any_eq_true.mpr ⟨thread, inside, ?_⟩
      rw [here, decide_eq_true rfl]
      rfl
  | false =>
      refine List.any_eq_false.mpr fun other listed both => ?_
      rcases Bool.and_eq_true_iff.mp both with ⟨same, kernel⟩
      rw [thread_of_num listed inside (of_decide_eq_true same), here] at kernel
      cases kernel

/-- The same command with another selection. -/
def selecting (args : PsArgs) (selection : PsSelection) : PsArgs :=
  { args with selection := selection }

theorem formatOneTask_selecting (kernel : TaskKernel) (selection : PsSelection) :
    (selecting args selection).formatOneTask kernel = args.formatOneTask kernel := by
  funext task usage state
  rfl

/-- The lines of a thread are the same for all selections. -/
theorem linesOf_selecting (selection : PsSelection) :
    target.linesOf (selecting args selection) = target.linesOf args := by
  funext thread
  simp only [linesOf, rowOf, PsArgs.printTask, PsArgs.taskLines, formatOneTask_selecting]

theorem keyOf_selecting (selection : PsSelection) :
    target.keyOf (selecting args selection) = target.keyOf args := by
  funext thread
  rfl

/-- The part of the selection that the pattern makes. -/
theorem chosen_selecting {thread : GdbThread} (inside : thread ∈ target.threads)
    (readable : forall task, thread.info = some task ->
      Exists fun answer : Bool => task.isKernelTask target.kernel = .ok answer) :
    target.chosen (selecting args .kernel) thread =
        (target.chosen (selecting args .every) thread && target.isKernel thread.num) ∧
      target.chosen (selecting args .user) thread =
        (target.chosen (selecting args .every) thread && !target.isKernel thread.num) := by
  cases known : thread.info with
  | none =>
      simp only [chosen, known, Bool.false_and]
      exact ⟨trivial, trivial⟩
  | some task =>
      rcases readable task known with ⟨answer, read⟩
      rw [isKernel_of_read inside known read]
      have kernel : (selecting args .kernel).shouldPrintTask target.kernel task =
          if answer = true then (selecting args .every).shouldPrintTask target.kernel task else .ok false := by
        rw [PsArgs.shouldPrintTask]
        change (task.isKernelTask target.kernel >>= _) = _
        rw [read]
        cases answer with
        | true => rfl
        | false => rfl
      have user : (selecting args .user).shouldPrintTask target.kernel task =
          if answer = true then .ok false else (selecting args .every).shouldPrintTask target.kernel task := by
        rw [PsArgs.shouldPrintTask]
        change ((task.isKernelTask target.kernel).map _ >>= _) = _
        rw [read]
        cases answer with
        | true => rfl
        | false => rfl
      simp only [chosen, known]
      rw [kernel, user]
      cases answer with
      | true => exact ⟨(Bool.and_true _).symm, (Bool.and_false _).symm⟩
      | false => exact ⟨(Bool.and_false _).symm, (Bool.and_true _).symm⟩

/-- Filtering the rows of some threads is filtering the threads. -/
theorem filter_rows (kept : Nat -> Bool) (threads : List GdbThread) :
    (threads.flatMap fun thread => (target.linesOf args thread).filterMap rowIn).filter (fun row => kept row.1) =
      (threads.filter fun thread => kept thread.num).flatMap fun thread =>
        (target.linesOf args thread).filterMap rowIn := by
  induction threads with
  | nil => rfl
  | cons thread rest inductionHypothesis =>
      rw [List.flatMap_cons, List.filter_append, inductionHypothesis, List.filter_cons]
      have same : forall row, row ∈ (target.linesOf args thread).filterMap rowIn -> kept row.1 = kept thread.num :=
        fun row member => congrArg kept (num_of_linesOf member)
      cases here : kept thread.num with
      | true =>
          rw [if_pos rfl, List.flatMap_cons, List.filter_eq_self.mpr fun row member => (same row member).trans here]
      | false =>
          rw [if_neg Bool.false_ne_true, List.filter_eq_nil_iff.mpr fun row member => by
            rw [same row member, here]
            exact Bool.false_ne_true]
          rfl

/-- After any commands, `-k` and `-u` share the rows of a command between them, in its order: a row
is one of `-k` exactly if its task is one of the kernel. -/
theorem execute_partition (target : PsTarget) (commands : List PsArgs) (args : PsArgs)
    (completed : forall selection, selection ∈ [PsSelection.every, .kernel, .user] ->
      (target.execute (selecting args selection) (target.afterCommands commands)).1.ending = .completed) :
    (forall thread, thread ∈ target.threads -> forall task, thread.info = some task ->
        task.isKernelTask target.kernel = .ok (target.isKernel thread.num)) ∧
      rows (target.execute (selecting args .kernel) (target.afterCommands commands)).1 =
        (rows (target.execute (selecting args .every) (target.afterCommands commands)).1).filter
          (fun row => target.isKernel row.1) ∧
      rows (target.execute (selecting args .user) (target.afterCommands commands)).1 =
        (rows (target.execute (selecting args .every) (target.afterCommands commands)).1).filter
          fun row => !target.isKernel row.1 := by
  have listing : forall selection, selection ∈ [PsSelection.every, .kernel, .user] ->
      rows (target.execute (selecting args selection) (target.afterCommands commands)).1 =
        (target.listed (selecting args selection)).flatMap fun thread =>
          (target.linesOf args thread).filterMap rowIn := by
    intro selection member
    have completes := completed selection member
    rw [(execute_kept (afterCommands_kept commands)).1] at completes ⊢
    rw [rows, execute_completed.2 completes, rows_expected, linesOf_selecting]
  have readable : forall thread, thread ∈ target.threads -> forall task, thread.info = some task ->
      Exists fun answer : Bool => task.isKernelTask target.kernel = .ok answer := by
    intro thread inside task known
    have completes := completed .kernel (by decide)
    rw [(execute_kept (afterCommands_kept commands)).1] at completes
    rcases ((execute_completed.1.mp completes).2.1 thread inside).2 task known with ⟨answer, asked, _⟩
    rw [PsArgs.shouldPrintTask] at asked
    rcases except_bind_ok.mp asked with ⟨isKernel, read, _⟩
    exact ⟨isKernel, read⟩
  have sorted : forall kept : Nat -> Bool, forall selection,
      (forall thread, thread ∈ target.threads -> target.chosen (selecting args selection) thread =
        (target.chosen (selecting args .every) thread && kept thread.num)) ->
      target.listed (selecting args selection) =
        (target.listed (selecting args .every)).filter fun thread => kept thread.num := by
    intro kept selection splits
    rw [listed, listed, keyOf_selecting, keyOf_selecting, filter_sortedBy, List.filter_filter,
      List.filter_congr splits]
    refine congrArg _ (List.filter_congr fun thread _ => ?_)
    exact Bool.and_comm _ _
  refine ⟨fun thread inside task known => ?_, ?_, ?_⟩
  · rcases readable thread inside task known with ⟨answer, read⟩
    rw [isKernel_of_read inside known read, read]
  · rw [listing .kernel (by decide), listing .every (by decide), filter_rows target.isKernel,
      sorted target.isKernel .kernel fun thread inside => (chosen_selecting inside (readable thread inside)).1]
  · rw [listing .user (by decide), listing .every (by decide), filter_rows fun num => !target.isKernel num,
      sorted (fun num => !target.isKernel num) .user fun thread inside =>
        (chosen_selecting inside (readable thread inside)).2]

end PsTarget

/-- A kernel with the members of a recent one. -/
def recentKernel : TaskKernel where
  types := ⟨false, true, true, true, true, false, false, false, false, true, false, false⟩
  methods := ⟨true, true, .stat, .lastArrival⟩
  picked := rfl
  flags := parkedFlags
  initMm := some 500

/-- A task that sleeps. -/
def sleepingTask (address : Nat) (pid : Int) (name : String) (mm : Nat) : TaskObject where
  taskStruct :=
    { address := address, comm := .ok name.toList, pid := .ok pid, parentPid := .ok 1
      state := .error (.gdb .memoryError), underscoreState := .ok 1, exitState := .ok 0, flags := .ok 0
      exitSignal := .ok 17, cpu := .ok 0, lastArrival := .ok 90, lastRun := .error (.gdb .memoryError)
      timestamp := .error (.gdb .memoryError), mm := .ok mm
      mmStruct := ⟨.ok 20, .ok 4096, [.ok 3, .ok 4], .error (.gdb .memoryError), .error (.gdb .memoryError)⟩ }

/-- A user task and a kernel thread. -/
def twoTasks : PsTarget where
  kernel := recentKernel
  threads := [⟨1, some (sleepingTask 16 30 "bash" 700)⟩, ⟨2, some (sleepingTask 32 20 "kthreadd" 0)⟩]
  different := by decide

theorem execute_partition_twoTasks :
    PsTarget.rows (twoTasks.execute (PsTarget.selecting {} .kernel) (twoTasks.afterCommands [{}])).1 =
      (PsTarget.rows (twoTasks.execute (PsTarget.selecting {} .every) (twoTasks.afterCommands [{}])).1).filter
        fun row => twoTasks.isKernel row.1 :=
  (PsTarget.execute_partition twoTasks [{}] {} (by decide)).2.1

end Commands
end CrashPython

import CrashPython.Library.Assignments
import CrashPython.Library.Descending
import CrashPython.Library.PackedFields
import CrashPython.Types.Task
import Mathlib.Data.List.Dedup

namespace CrashPython
namespace Commands

open Library Types

/-!
# The state column of `ps`

`PSCommand` of `crash/commands/ps.py` has a dictionary from masks to labels, with the states
that the kernel has.  The label of a task is that of the greatest mask that its state
contains, and a task without a label is reported.  A state with `TASK_DEAD` and none of the
states of a living task has the label of `TASK_DEAD` instead.

`TASK_RUNNING` is zero, and every state contains it.  As the least of the masks it is looked
at last, so a state that no other mask fits is shown as running.
-/

/-- An exception: a key that the dictionary does not have. -/
inductive PsError where
  | keyError (bits : Int)
deriving DecidableEq, Repr

/-- What `task_state_string` returns, with what it prints. -/
structure StateString where
  buf : String
  printed : List String
deriving DecidableEq, Repr

/-- `setup_task_states`, as the assignments to the dictionary. -/
def setupTaskStates (flags : TaskStateFlags) : List (Int × String) :=
  (flags .taskRunning, "RU") ::
    ([(flags .taskInterruptible, "IN"), (flags .taskUninterruptible, "UN"),
        (flags .exitZombie, "ZO"), (flags .taskStopped, "ST")] ++
      (if flags.hasFlag .taskSwapping then [(flags .taskSwapping, "SW")] else []) ++
      (if flags.hasFlag .taskDead then [(flags .taskDead, "DE")] else []) ++
      (if flags.hasFlag .taskTracingStopped then [(flags .taskTracingStopped, "TR")] else []) ++
      (if flags.hasFlag .taskIdle then [(flags .taskIdle, "ID")] else []))

/-- The keys of the dictionary. -/
def stateKeys (taskStates : List (Int × String)) : List Int :=
  (taskStates.map Prod.fst).dedup

/-- `self.task_states[bits]`. -/
def stateLabel (taskStates : List (Int × String)) (bits : Int) : Except PsError String :=
  match lastAssigned bits taskStates with
  | none => .error (.keyError bits)
  | some label => .ok label

/-- `(state & bits) == bits`. -/
def contains (state bits : Int) : Bool :=
  Int.land state bits == bits

/-- The loop over the keys, the greatest first. -/
def greatestLabel (taskStates : List (Int × String)) (state : Int) : Except PsError String :=
  match (descending (stateKeys taskStates)).find? (contains state) with
  | none => .ok ""
  | some bits => stateLabel taskStates bits

/-- The end of `task_state_string`. -/
def reported (state : Int) (buf : String) : StateString :=
  ⟨buf, if buf = "" then ["Unknown state " ++ toString state ++ " found"] else []⟩

/-- `task_state_string`. -/
def taskStateString (flags : TaskStateFlags) (taskStates : List (Int × String))
    (task : LinuxTask) : Except PsError StateString :=
  match greatestLabel taskStates task.taskState with
  | .error error => .error error
  | .ok buf =>
      if Int.land task.taskState (flags .taskDead) ≠ 0 ∧ task.maybeDead flags = true then
        (stateLabel taskStates (flags .taskDead)).map (reported task.taskState)
      else .ok (reported task.taskState buf)

/-! ## What is to be shown -/

section Spec

variable (flags : TaskStateFlags) (task : LinuxTask)

/-- The state contains `TASK_DEAD` and nothing that `maybe_dead` knows. -/
def LooksDead : Prop :=
  Int.land task.taskState (flags .taskDead) = flags .taskDead ∧
    Int.land task.taskState (LinuxTask.knownBits flags) = 0

/-- The registered masks that are not zero and that the state contains. -/
def registeredIn : Set Int :=
  Wanted (stateKeys (setupTaskStates flags)) fun bits => bits != 0 && contains task.taskState bits

/-- The label that is registered last for a mask is shown, and nothing is printed. -/
def ShowsLabelOf (bits : Int) (shown : Except PsError StateString) : Prop :=
  Exists fun label : String =>
    lastAssigned bits (setupTaskStates flags) = some label ∧ shown = .ok ⟨label, []⟩

/-- What the column is to show. -/
structure ShowsState (shown : Except PsError StateString) : Prop where
  running : forall printed, shown = .ok ⟨"RU", printed⟩ -> task.taskState = 0
  dead : LooksDead flags task -> ShowsLabelOf flags (flags .taskDead) shown
  greatest : ¬ LooksDead flags task -> forall bits, IsGreatest (registeredIn flags task) bits ->
    ShowsLabelOf flags bits shown
  unknown : ¬ LooksDead flags task -> task.taskState ≠ 0 -> registeredIn flags task = ∅ ->
    shown = .ok ⟨"", ["Unknown state " ++ toString task.taskState ++ " found"]⟩

/-- The state is zero, or it looks dead, or it contains a registered mask other than zero and
the greatest is not shown as running, or it contains none and zero is not registered. -/
def HasLabel : Prop :=
  task.taskState = 0 ∨ LooksDead flags task ∨
    (Exists fun bits : Int => IsGreatest (registeredIn flags task) bits ∧
      lastAssigned bits (setupTaskStates flags) ≠ some "RU") ∨
    (registeredIn flags task = ∅ ∧ 0 ∉ stateKeys (setupTaskStates flags))

end Spec

/-! ## The dictionary -/

section Dictionary

variable {flags : TaskStateFlags} {bits : Int}

theorem mem_stateKeys {taskStates : List (Int × String)} :
    bits ∈ stateKeys taskStates <-> Exists fun label : String => (bits, label) ∈ taskStates := by
  rw [stateKeys, List.mem_dedup, List.mem_map]
  constructor
  · rintro ⟨⟨key, label⟩, member, same⟩
    cases same
    exact ⟨label, member⟩
  · rintro ⟨label, member⟩
    exact ⟨(bits, label), member, rfl⟩

/-- A key has a label. -/
theorem exists_stateLabel {taskStates : List (Int × String)} (member : bits ∈ stateKeys taskStates) :
    Exists fun label : String =>
      lastAssigned bits taskStates = some label ∧ stateLabel taskStates bits = .ok label := by
  rcases mem_stateKeys.mp member with ⟨first, assigned⟩
  rcases exists_lastAssigned assigned with ⟨label, last⟩
  change lastAssigned bits taskStates = some label at last
  exact ⟨label, last, by rw [stateLabel, last]⟩

/-- A mask with a label other than that of `TASK_RUNNING` is that of a state, which every
kernel has or which was found. -/
def NamesState (flags : TaskStateFlags) (bits : Int) (label : String) : Prop :=
  label ≠ "RU" ∧ label ≠ "" ∧ Exists fun flag : StateFlag =>
    bits = flags flag ∧ (flag ∈ TaskStateFlags.required ∨ flags.hasFlag flag = true)

/-- A state that every kernel has. -/
theorem namesState_of_required {flag : StateFlag} {text label : String}
    (named : text ≠ "RU" ∧ text ≠ "") (always : flag ∈ TaskStateFlags.required)
    (assigned : bits = flags flag ∧ label = text) : NamesState flags bits label := by
  rw [assigned.2]
  exact ⟨named.1, named.2, flag, assigned.1, Or.inl always⟩

/-- A state that only some kernels have. -/
theorem namesState_of_found {flag : StateFlag} {text label : String}
    (named : text ≠ "RU" ∧ text ≠ "")
    (assigned : (bits, label) ∈ if flags.hasFlag flag then [(flags flag, text)] else []) :
    NamesState flags bits label := by
  split at assigned
  · rename_i found
    have same := Prod.mk.inj (List.mem_singleton.mp assigned)
    rw [same.2]
    exact ⟨named.1, named.2, flag, same.1, Or.inr found⟩
  · cases assigned

/-- What is assigned after `TASK_RUNNING`. -/
theorem namesState_of_mem_tail {label : String}
    (assigned : (bits, label) ∈ (setupTaskStates flags).tail) : NamesState flags bits label := by
  simp only [setupTaskStates, List.tail_cons, List.mem_append, List.mem_cons, Prod.mk.injEq,
    List.not_mem_nil, or_false] at assigned
  rcases assigned with (((base | swapping) | dead) | tracing) | idle
  · rcases base with interruptible | uninterruptible | zombie | stopped
    · exact namesState_of_required (by decide) (by decide) interruptible
    · exact namesState_of_required (by decide) (by decide) uninterruptible
    · exact namesState_of_required (by decide) (by decide) zombie
    · exact namesState_of_required (by decide) (by decide) stopped
  · exact namesState_of_found (by decide) swapping
  · exact namesState_of_found (by decide) dead
  · exact namesState_of_found (by decide) tracing
  · exact namesState_of_found (by decide) idle

/-- What is assigned at all. -/
theorem setupTaskStates_cases {label : String} (assigned : (bits, label) ∈ setupTaskStates flags) :
    (bits = flags .taskRunning ∧ label = "RU") ∨ NamesState flags bits label := by
  rcases List.mem_cons.mp assigned with running | later
  · exact Or.inl (Prod.mk.inj running)
  · exact Or.inr (namesState_of_mem_tail later)

/-- No label is empty. -/
theorem label_ne_empty {label : String}
    (last : lastAssigned bits (setupTaskStates flags) = some label) : label ≠ "" := by
  rcases setupTaskStates_cases (mem_of_lastAssigned last) with ⟨_, running⟩ | other
  · rw [running]
    decide
  · exact other.2.1

/-- The masks are not negative. -/
theorem nonneg_of_mem_stateKeys (settled : flags.Settled)
    (member : bits ∈ stateKeys (setupTaskStates flags)) : 0 ≤ bits := by
  rcases mem_stateKeys.mp member with ⟨label, assigned⟩
  rcases setupTaskStates_cases assigned with ⟨same, _⟩ | ⟨_, _, flag, same, known⟩
  · rw [same]
    exact settled.valid.nonneg (settled.found _ List.mem_cons_self)
  · rw [same]
    rcases known with always | found
    · exact settled.valid.nonneg (settled.found flag always)
    · exact settled.valid.nonneg found

/-- `TASK_DEAD` was found, whatever the layout. -/
theorem hasFlag_taskDead (settled : flags.Settled) : flags.hasFlag .taskDead = true := by
  rw [TaskStateFlags.hasFlag, bne_iff_ne]
  rcases settled.dead with small | large
  · rw [small]
    decide
  · rw [large]
    decide

/-- The label of `TASK_DEAD` is not that of `TASK_RUNNING`. -/
theorem exists_deadLabel (settled : flags.Settled) :
    Exists fun label : String => label ≠ "RU" ∧
      lastAssigned (flags .taskDead) (setupTaskStates flags) = some label := by
  have member : (flags .taskDead, "DE") ∈ (setupTaskStates flags).tail := by
    simp only [setupTaskStates, List.tail_cons, hasFlag_taskDead settled, if_true,
      List.mem_append, List.mem_singleton, true_or, or_true]
  rcases exists_lastAssigned member with ⟨label, last⟩
  refine ⟨label, (namesState_of_mem_tail (mem_of_lastAssigned last)).1, ?_⟩
  change (lastAssigned (flags .taskDead) (setupTaskStates flags).tail).or _ = some label
  rw [last, Option.some_or]

end Dictionary

/-! ## What the code shows -/

section Shown

variable {flags : TaskStateFlags} {task : LinuxTask} {bits : Int}

theorem mem_registeredIn :
    bits ∈ registeredIn flags task <->
      bits ∈ stateKeys (setupTaskStates flags) ∧ bits ≠ 0 ∧ contains task.taskState bits = true := by
  change _ ∧ (bits != 0 && contains task.taskState bits) = true <-> _
  rw [Bool.and_eq_true_iff, bne_iff_ne]

/-- The two tests of the code are those of the dictionary: `TASK_DEAD` is one bit. -/
theorem looksDead_iff (settled : flags.Settled) :
    LooksDead flags task <->
      Int.land task.taskState (flags .taskDead) ≠ 0 ∧ task.maybeDead flags = true := by
  have single : (Int.land task.taskState (flags .taskDead) = 0 ∨
      Int.land task.taskState (flags .taskDead) = flags .taskDead) ∧ flags .taskDead ≠ 0 := by
    rcases settled.dead with small | large
    · rw [small]
      exact ⟨land_two_pow task.taskState 6, by decide⟩
    · rw [large]
      exact ⟨land_two_pow task.taskState 7, by decide⟩
  rw [LinuxTask.maybeDead, beq_iff_eq]
  constructor
  · rintro ⟨dead, unknown⟩
    rw [dead]
    exact ⟨single.2, unknown⟩
  · rintro ⟨some, unknown⟩
    exact ⟨single.1.resolve_left some, unknown⟩

/-- The loop finds a label or nothing. -/
theorem exists_greatestLabel (taskStates : List (Int × String)) (state : Int) :
    Exists fun buf : String => greatestLabel taskStates state = .ok buf := by
  rw [greatestLabel]
  cases found : (descending (stateKeys taskStates)).find? (contains state) with
  | none => exact ⟨"", rfl⟩
  | some bits =>
      rcases exists_stateLabel (isGreatest_of_find?_descending found).1.1 with ⟨label, _, answer⟩
      exact ⟨label, answer⟩

/-- A task that looks dead. -/
theorem shown_of_looksDead (settled : flags.Settled) (dead : LooksDead flags task) {label : String}
    (last : lastAssigned (flags .taskDead) (setupTaskStates flags) = some label) :
    taskStateString flags (setupTaskStates flags) task = .ok ⟨label, []⟩ := by
  rcases exists_greatestLabel (setupTaskStates flags) task.taskState with ⟨buf, found⟩
  simp only [taskStateString, found]
  rw [if_pos ((looksDead_iff settled).mp dead), stateLabel, last]
  change Except.ok (reported task.taskState label) = _
  rw [reported, if_neg (label_ne_empty last)]

/-- Any other task has what the loop finds. -/
theorem shown_of_not_looksDead (settled : flags.Settled) (alive : ¬ LooksDead flags task)
    {buf : String} (found : greatestLabel (setupTaskStates flags) task.taskState = .ok buf) :
    taskStateString flags (setupTaskStates flags) task = .ok (reported task.taskState buf) := by
  simp only [taskStateString, found]
  rw [if_neg fun dead => alive ((looksDead_iff settled).mpr dead)]

/-- A key that the loop finds. -/
theorem shown_of_find (settled : flags.Settled) (alive : ¬ LooksDead flags task)
    (found : (descending (stateKeys (setupTaskStates flags))).find? (contains task.taskState) =
      some bits) :
    ShowsLabelOf flags bits (taskStateString flags (setupTaskStates flags) task) := by
  rcases exists_stateLabel (isGreatest_of_find?_descending found).1.1 with ⟨label, last, answer⟩
  have loop : greatestLabel (setupTaskStates flags) task.taskState = .ok label := by
    rw [greatestLabel, found]
    exact answer
  refine ⟨label, last, ?_⟩
  rw [shown_of_not_looksDead settled alive loop, reported, if_neg (label_ne_empty last)]

/-- The greatest mask other than zero is found before zero. -/
theorem shown_of_isGreatest (settled : flags.Settled) (alive : ¬ LooksDead flags task)
    (greatest : IsGreatest (registeredIn flags task) bits) :
    ShowsLabelOf flags bits (taskStateString flags (setupTaskStates flags) task) := by
  rcases greatest with ⟨wanted, bound⟩
  rcases mem_registeredIn.mp wanted with ⟨member, _, contained⟩
  refine shown_of_find settled alive (find?_descending_of_isGreatest ⟨⟨member, contained⟩, ?_⟩)
  rintro other ⟨otherMember, otherContained⟩
  by_cases same : other = 0
  · rw [same]
    exact nonneg_of_mem_stateKeys settled member
  · exact bound (mem_registeredIn.mpr ⟨otherMember, same, otherContained⟩)

theorem contains_zero (state : Int) : contains state 0 = true :=
  beq_iff_eq.mpr (land_zero state)

/-- Without such a mask the zero mask is found, if there is one. -/
theorem shown_of_zero (settled : flags.Settled) (alive : ¬ LooksDead flags task)
    (none : registeredIn flags task = ∅) (zero : 0 ∈ stateKeys (setupTaskStates flags)) :
    ShowsLabelOf flags 0 (taskStateString flags (setupTaskStates flags) task) := by
  refine shown_of_find settled alive
    (find?_descending_of_isGreatest ⟨⟨zero, contains_zero task.taskState⟩, ?_⟩)
  rintro other ⟨member, contained⟩
  by_contra positive
  have different : other ≠ 0 := fun same => positive (le_of_eq same)
  have wanted : other ∈ registeredIn flags task :=
    mem_registeredIn.mpr ⟨member, different, contained⟩
  rw [none] at wanted
  exact wanted

/-- Without any mask the state is reported. -/
theorem shown_of_nothing (settled : flags.Settled) (alive : ¬ LooksDead flags task)
    (none : registeredIn flags task = ∅) (noZero : 0 ∉ stateKeys (setupTaskStates flags)) :
    taskStateString flags (setupTaskStates flags) task =
      .ok ⟨"", ["Unknown state " ++ toString task.taskState ++ " found"]⟩ := by
  have nothing : (descending (stateKeys (setupTaskStates flags))).find? (contains task.taskState) =
      Option.none := by
    rw [find?_descending_eq_none_iff]
    intro other member
    by_contra contained
    have different : other ≠ 0 := fun same => noZero (same ▸ member)
    have wanted : other ∈ registeredIn flags task :=
      mem_registeredIn.mpr ⟨member, different, Bool.not_eq_false _ ▸ contained⟩
    rw [none] at wanted
    exact wanted
  have loop : greatestLabel (setupTaskStates flags) task.taskState = .ok "" := by
    rw [greatestLabel, nothing]
  rw [shown_of_not_looksDead settled alive loop]
  rfl

/-- If the state contains a registered mask other than zero, there is a greatest. -/
theorem exists_isGreatest (some : registeredIn flags task ≠ ∅) :
    Exists fun bits : Int => IsGreatest (registeredIn flags task) bits := by
  rcases Set.nonempty_iff_ne_empty.mpr some with ⟨bits, member, wanted⟩
  cases found : (descending (stateKeys (setupTaskStates flags))).find?
      (fun bits => bits != 0 && contains task.taskState bits) with
  | none =>
      have refused := find?_descending_eq_none_iff.mp found bits member
      exact absurd wanted (Bool.eq_false_iff.mp refused)
  | some greatest => exact ⟨greatest, isGreatest_of_find?_descending found⟩

/-- One label is shown at most. -/
theorem ShowsLabelOf.label {shown : Except PsError StateString} {buf : String}
    {printed : List String} (shows : ShowsLabelOf flags bits shown) (same : shown = .ok ⟨buf, printed⟩) :
    lastAssigned bits (setupTaskStates flags) = some buf := by
  rcases shows with ⟨label, last, shown⟩
  rw [same] at shown
  cases shown
  exact last

/-- What is shown as running, in a state that is not zero, has no label of its own. -/
theorem showsState_of_hasLabel (settled : flags.Settled) (labelled : HasLabel flags task) :
    ShowsState flags task (taskStateString flags (setupTaskStates flags) task) where
  running := by
    intro printed running
    by_cases dead : LooksDead flags task
    · rcases exists_deadLabel settled with ⟨label, different, last⟩
      rw [shown_of_looksDead settled dead last] at running
      cases running
      exact absurd rfl different
    · rcases labelled with zero | dead' | ⟨bits, greatest, different⟩ | ⟨none, noZero⟩
      · exact zero
      · exact absurd dead' dead
      · exact absurd ((shown_of_isGreatest settled dead greatest).label running) different
      · rw [shown_of_nothing settled dead none noZero] at running
        have same : "" = "RU" := congrArg StateString.buf (Except.ok.inj running)
        exact absurd same (by decide)
  dead := by
    intro dead
    rcases exists_deadLabel settled with ⟨label, _, last⟩
    exact ⟨label, last, shown_of_looksDead settled dead last⟩
  greatest := fun alive _ greatest => shown_of_isGreatest settled alive greatest
  unknown := by
    intro alive nonzero none
    rcases labelled with zero | dead | ⟨bits, greatest, _⟩ | ⟨_, noZero⟩
    · exact absurd zero nonzero
    · exact absurd dead alive
    · have member := greatest.1
      rw [none] at member
      exact False.elim member
    · exact shown_of_nothing settled alive none noZero

/-- A state that is shown as it should be is one of the four kinds. -/
theorem hasLabel_of_showsState (settled : flags.Settled)
    (shows : ShowsState flags task (taskStateString flags (setupTaskStates flags) task)) :
    HasLabel flags task := by
  by_cases zero : task.taskState = 0
  · exact Or.inl zero
  by_cases dead : LooksDead flags task
  · exact Or.inr (Or.inl dead)
  by_cases none : registeredIn flags task = ∅
  · refine Or.inr (Or.inr (Or.inr ⟨none, ?_⟩))
    intro zeroMask
    have shown := shown_of_zero settled dead none zeroMask
    exact label_ne_empty (shown.label (shows.unknown dead zero none)) rfl
  · rcases exists_isGreatest none with ⟨bits, greatest⟩
    refine Or.inr (Or.inr (Or.inl ⟨bits, greatest, ?_⟩))
    intro running
    rcases shows.greatest dead bits greatest with ⟨label, last, shown⟩
    rw [running] at last
    rw [← Option.some.inj last] at shown
    exact zero (shows.running [] shown)

/-- Where `TASK_RUNNING` is zero, as in every kernel, a state has a label if it is zero, looks
dead, or contains a registered mask other than zero. -/
theorem hasLabel_iff_of_zero (zero : flags .taskRunning = 0) :
    HasLabel flags task <->
      task.taskState = 0 ∨ LooksDead flags task ∨ registeredIn flags task ≠ ∅ := by
  have registered : 0 ∈ stateKeys (setupTaskStates flags) :=
    mem_stateKeys.mpr ⟨"RU", zero ▸ List.mem_cons_self⟩
  constructor
  · rintro (stateZero | dead | ⟨bits, greatest, _⟩ | ⟨_, noZero⟩)
    · exact Or.inl stateZero
    · exact Or.inr (Or.inl dead)
    · refine Or.inr (Or.inr ?_)
      intro none
      have member := greatest.1
      rw [none] at member
      exact member
    · exact absurd registered noZero
  · rintro (stateZero | dead | some)
    · exact Or.inl stateZero
    · exact Or.inr (Or.inl dead)
    · rcases exists_isGreatest some with ⟨bits, greatest⟩
      refine Or.inr (Or.inr (Or.inl ⟨bits, greatest, ?_⟩))
      intro running
      rcases setupTaskStates_cases (mem_of_lastAssigned running) with ⟨same, _⟩ | other
      · exact (mem_registeredIn.mp greatest.1).2.1 (same.trans zero)
      · exact other.1 rfl

end Shown

/-- For every kernel that the callback accepts and every state of a task: the column shows
what it should if and only if the state is zero, looks dead, has a label other than that of
`TASK_RUNNING`, or has no label at all, not even that of the zero mask. -/
theorem taskStateString_iff (taskStateArray : List PyString) (flags : TaskStateFlags)
    (accepted : TaskStateFlags.taskStateFlagsCallback taskStateArray = .ok flags) (task : LinuxTask) :
    ShowsState flags task (taskStateString flags (setupTaskStates flags) task) <->
      HasLabel flags task :=
  ⟨hasLabel_of_showsState (TaskStateFlags.settled_of_callback accepted),
    showsState_of_hasLabel (TaskStateFlags.settled_of_callback accepted)⟩

/-- The array of a kernel with parked and idle tasks in it. -/
def parkedArray : List PyString :=
  ["R (running)".toList, "S (sleeping)".toList, "D (disk sleep)".toList, "T (stopped)".toList,
    "t (tracing stop)".toList, "X (dead)".toList, "Z (zombie)".toList, "P (parked)".toList,
    "I (idle)".toList]

/-- The values that this kernel has. -/
def parkedFlags : TaskStateFlags
  | .taskRunning => 0
  | .taskInterruptible => 1
  | .taskUninterruptible => 2
  | .taskStopped => 4
  | .taskTracingStopped => 8
  | .exitDead => 16
  | .exitZombie => 32
  | .taskParked => 64
  | .taskDead => 128
  | .unmangledIdle => 128
  | .taskWakekill => 256
  | .taskWaking => 512
  | .taskNoload => 1024
  | .taskNew => 2048
  | .taskIdle => 1026
  | .taskSwapping => -1

/-- All states. -/
def stateFlags : List StateFlag :=
  [.taskRunning, .taskInterruptible, .taskUninterruptible, .taskStopped, .exitZombie, .taskDead,
    .exitDead, .taskSwapping, .taskTracingStopped, .taskWakekill, .taskWaking, .taskParked,
    .taskNoload, .taskNew, .taskIdle, .unmangledIdle]

theorem mem_stateFlags (flag : StateFlag) : flag ∈ stateFlags := by
  cases flag <;> decide

/-- The callback finds these values. -/
theorem parkedFlags_accepted :
    TaskStateFlags.taskStateFlagsCallback parkedArray = .ok parkedFlags := by
  have values : (TaskStateFlags.taskStateFlagsCallback parkedArray).map (fun flags => stateFlags.map flags) =
      .ok (stateFlags.map parkedFlags) := by
    decide +kernel
  cases found : TaskStateFlags.taskStateFlagsCallback parkedArray with
  | error error =>
      rw [found] at values
      cases values
  | ok flags =>
      rw [found] at values
      have same : flags = parkedFlags := by
        funext flag
        exact List.map_inj_left.mp (Except.ok.inj values) flag (mem_stateFlags flag)
      rw [same]

/-- A task that is stopped and traced is shown by the greater of the two masks. -/
theorem taskStateString_iff_traced :
    ShowsState parkedFlags ⟨12, some 0⟩
      (taskStateString parkedFlags (setupTaskStates parkedFlags) ⟨12, some 0⟩) := by
  apply (taskStateString_iff parkedArray parkedFlags parkedFlags_accepted ⟨12, some 0⟩).mpr
  refine Or.inr (Or.inr (Or.inl ⟨8, ?_, ?_⟩))
  · apply isGreatest_of_find?_descending
    decide
  · decide

/-- A parked task is shown as running. -/
theorem parked_not_showsState :
    TaskStateFlags.taskStateFlagsCallback parkedArray = .ok parkedFlags ∧
      ¬ ShowsState parkedFlags ⟨64, some 0⟩
        (taskStateString parkedFlags (setupTaskStates parkedFlags) ⟨64, some 0⟩) := by
  refine ⟨parkedFlags_accepted, ?_⟩
  intro shows
  have running : taskStateString parkedFlags (setupTaskStates parkedFlags) ⟨64, some 0⟩ =
      .ok ⟨"RU", []⟩ := by
    decide
  exact absurd (shows.running [] running) (by decide)

end Commands
end CrashPython

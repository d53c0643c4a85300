import CrashPython.Library.PyString
import CrashPython.Library.Script
import Mathlib.Data.Int.Bitwise
import Mathlib.Data.List.Infix
import Mathlib.Logic.Function.Basic

namespace CrashPython
namespace Types

open Library

/-!
# The task states of `crash/types/task.py`

The values of the task states are defines of the kernel and have no symbols.
`TaskStateFlags` reads them off the strings of `task_state_array`: the string at index zero
belongs to the state zero and each other string to the next bit.  Kernels name only some of
their states there, so the rest is filled in by what is known of three layouts, and checked
by assertions.  A task has its state in one field or two, which are combined.

A state that was not found has the value `-1`.  The callback leaves no other negative value,
and it leaves `TASK_DEAD` with the single bit that the layout gives it.
-/

/-- The attributes of class `TaskStateFlags`.  The last one is written without the name
mangling of its class attribute, and nothing reads it. -/
inductive StateFlag where
  | taskRunning
  | taskInterruptible
  | taskUninterruptible
  | taskStopped
  | exitZombie
  | taskDead
  | exitDead
  | taskSwapping
  | taskTracingStopped
  | taskWakekill
  | taskWaking
  | taskParked
  | taskNoload
  | taskNew
  | taskIdle
  | unmangledIdle
deriving DecidableEq, Repr

/-- The values of the attributes. -/
abbrev TaskStateFlags := StateFlag -> Int

/-- What can go wrong in the callback: an assertion, or states that were not found. -/
inductive TaskFlagsError where
  | assertion
  | missingStates (missing : List StateFlag)
deriving DecidableEq, Repr

/-- The name of a state in the message about missing ones. -/
def StateFlag.text : StateFlag -> String
  | .taskRunning => "TASK_RUNNING"
  | .taskInterruptible => "TASK_INTERRUPTIBLE"
  | .taskUninterruptible => "TASK_UNINTERRUPTIBLE"
  | .taskStopped => "TASK_STOPPED"
  | .exitZombie => "EXIT_ZOMBIE"
  | .taskDead => "TASK_DEAD"
  | .exitDead => "EXIT_DEAD"
  | .taskSwapping => "TASK_SWAPPING"
  | .taskTracingStopped => "TASK_TRACING_STOPPED"
  | .taskWakekill => "TASK_WAKEKILL"
  | .taskWaking => "TASK_WAKING"
  | .taskParked => "TASK_PARKED"
  | .taskNoload => "TASK_NOLOAD"
  | .taskNew => "TASK_NEW"
  | .taskIdle => "TASK_IDLE"
  | .unmangledIdle => "__TASK_IDLE"

/-- The text of the `RuntimeError`, and no text for an assertion. -/
def TaskFlagsError.text : TaskFlagsError -> String
  | .assertion => ""
  | .missingStates missing =>
      "Missing required task states: " ++ ",".intercalate (missing.map StateFlag.text)

namespace TaskStateFlags

/-- The class attributes before the callback. -/
def initial : TaskStateFlags :=
  fun flag => if flag = .taskRunning then 0 else -1

/-- `has_flag`. -/
def hasFlag (flags : TaskStateFlags) (flag : StateFlag) : Bool :=
  flags flag != -1

/-- Some attributes are set, one after another. -/
def setAttrs (flags : TaskStateFlags) (values : List (StateFlag × Int)) : TaskStateFlags :=
  values.foldl (fun flags value => Function.update flags value.1 value.2) flags

/-- `state_strings`. -/
def stateStrings : List (PyString × StateFlag) :=
  [("(running)".toList, .taskRunning), ("(sleeping)".toList, .taskInterruptible),
    ("(disk sleep)".toList, .taskUninterruptible), ("(stopped)".toList, .taskStopped),
    ("(zombie)".toList, .exitZombie), ("x (dead)".toList, .taskDead),
    ("X (dead)".toList, .exitDead), ("(swapping)".toList, .taskSwapping),
    ("(tracing stop)".toList, .taskTracingStopped), ("(wakekill)".toList, .taskWakekill),
    ("(waking)".toList, .taskWaking), ("(parked)".toList, .taskParked),
    ("(idle)".toList, .unmangledIdle)]

/-- The states that a string names get its bit. -/
def readState (bit : Nat) (flags : TaskStateFlags) (state : PyString) : TaskStateFlags :=
  flags.setAttrs ((stateStrings.filter fun entry => decide (entry.1 <:+: state)).map
    fun entry => (entry.2, (bit : Int)))

/-- The loop over `task_state_array`, from some bit on. -/
def readStates (bit : Nat) (flags : TaskStateFlags) : List PyString -> TaskStateFlags
  | [] => flags
  | state :: states =>
      readStates (if bit = 0 then 1 else bit <<< 1) (readState bit flags state) states

/-- Some assertions, each that two values are equal. -/
def asserted (checks : List (Int × Int)) (flags : TaskStateFlags) :
    Except TaskFlagsError TaskStateFlags :=
  if forall check, check ∈ checks -> check.1 = check.2 then .ok flags else .error .assertion

/-- The layout with `TASK_PARKED` in the array. -/
def parkedLayout (flags : TaskStateFlags) : Except TaskFlagsError TaskStateFlags :=
  let newbits := flags .taskParked <<< (1 : Nat)
  let flags := flags.setAttrs
    [(.taskDead, newbits), (.taskWakekill, newbits <<< (1 : Nat)),
      (.taskWaking, newbits <<< (2 : Nat)), (.taskNoload, newbits <<< (3 : Nat)),
      (.taskNew, newbits <<< (4 : Nat))]
  asserted
    [(flags .taskParked, 0x0040), (flags .taskDead, 0x0080), (flags .taskWakekill, 0x0100),
      (flags .taskWaking, 0x0200)] flags

/-- The layout with `EXIT_DEAD` in the array and without `TASK_PARKED`. -/
def exitDeadLayout (flags : TaskStateFlags) : Except TaskFlagsError TaskStateFlags :=
  let newbits :=
    if flags .exitZombie > flags .exitDead then flags .exitZombie <<< (1 : Nat)
    else flags .exitDead <<< (1 : Nat)
  let flags := flags.setAttrs
    [(.taskDead, newbits), (.taskWakekill, newbits <<< (1 : Nat)),
      (.taskWaking, newbits <<< (2 : Nat)), (.taskParked, newbits <<< (3 : Nat)),
      (.taskNoload, newbits <<< (4 : Nat)), (.taskNew, newbits <<< (5 : Nat))]
  asserted
    [(flags .taskDead, 0x0040), (flags .taskWakekill, 0x0080), (flags .taskWaking, 0x0100),
      (flags .taskParked, 0x0200)] flags

/-- The layout with all states in the array. -/
def fullLayout (flags : TaskStateFlags) : Except TaskFlagsError TaskStateFlags :=
  asserted
    [(flags .taskDead, 64), (flags .taskWakekill, 128), (flags .taskWaking, 256),
      (flags .taskParked, 512)] flags

/-- The choice between the three layouts. -/
def settleLayout (flags : TaskStateFlags) : Except TaskFlagsError TaskStateFlags :=
  if flags.hasFlag .taskParked && !flags.hasFlag .taskDead then parkedLayout flags
  else if flags.hasFlag .exitDead then exitDeadLayout flags
  else fullLayout flags

/-- The state of a kernel thread that is idle. -/
def settleIdle (flags : TaskStateFlags) : Except TaskFlagsError TaskStateFlags :=
  if flags.hasFlag .taskNoload then
    let idle := Int.lor (flags .taskNoload) (flags .taskUninterruptible)
    asserted [(flags .taskNoload, 1024), (idle, 1026)] (flags.setAttrs [(.taskIdle, idle)])
  else .ok flags

/-- The assertion for new tasks. -/
def checkNew (flags : TaskStateFlags) : Except TaskFlagsError TaskStateFlags :=
  if flags.hasFlag .taskNew then asserted [(flags .taskNew, 2048)] flags else .ok flags

/-- The states that every kernel has. -/
def required : List StateFlag :=
  [.taskRunning, .taskInterruptible, .taskUninterruptible, .exitZombie, .taskStopped]

/-- `_check_state_bits`. -/
def checkStateBits (flags : TaskStateFlags) : Except TaskFlagsError TaskStateFlags :=
  let missing := required.filter fun bit => !flags.hasFlag bit
  if missing = [] then .ok flags else .error (.missingStates missing)

/-- `task_state_flags_callback`, for the strings of `task_state_array`. -/
def taskStateFlagsCallback (taskStateArray : List PyString) :
    Except TaskFlagsError TaskStateFlags :=
  settleLayout (readStates 0 initial taskStateArray) >>= settleIdle >>= checkNew >>= checkStateBits

/-! ## What the callback leaves -/

/-- No value is negative but that of a state that was not found. -/
def Valid (flags : TaskStateFlags) : Prop :=
  forall flag, -1 ≤ flags flag

variable {flags after : TaskStateFlags}

theorem Valid.nonneg (valid : flags.Valid) {flag : StateFlag} (found : flags.hasFlag flag = true) :
    0 ≤ flags flag := by
  have different : flags flag ≠ -1 := bne_iff_ne.mp found
  have bound := valid flag
  omega

theorem valid_initial : Valid initial := by
  intro flag
  rw [initial]
  split
  · decide
  · decide

theorem Valid.setAttrs (valid : flags.Valid) {values : List (StateFlag × Int)}
    (nonneg : forall value, value ∈ values -> 0 ≤ value.2) : (flags.setAttrs values).Valid := by
  induction values generalizing flags with
  | nil => exact valid
  | cons value values inductionHypothesis =>
      have first : Valid (Function.update flags value.1 value.2) := by
        intro flag
        by_cases same : flag = value.1
        · subst same
          rw [Function.update_self]
          exact Int.le_trans (by decide) (nonneg value List.mem_cons_self)
        · rw [Function.update_of_ne same]
          exact valid flag
      exact inductionHypothesis first fun other member => nonneg other (List.mem_cons_of_mem _ member)

theorem Valid.readState (valid : flags.Valid) (bit : Nat) (state : PyString) :
    (readState bit flags state).Valid := by
  refine valid.setAttrs ?_
  intro value member
  rcases List.mem_map.mp member with ⟨entry, _, same⟩
  rw [← same]
  exact Int.natCast_nonneg bit

theorem Valid.readStates (valid : flags.Valid) (bit : Nat) (states : List PyString) :
    (readStates bit flags states).Valid := by
  induction states generalizing bit flags with
  | nil => exact valid
  | cons state states inductionHypothesis => exact inductionHypothesis (valid.readState bit state) _

theorem shiftLeft_nonneg {value : Int} (nonneg : 0 ≤ value) (count : Nat) : 0 ≤ value <<< count := by
  rw [Int.shiftLeft_eq]
  exact Int.mul_nonneg nonneg (Int.pow_nonneg (by decide))

/-- Assertions that hold leave the attributes as they are. -/
theorem asserted_ok {checks : List (Int × Int)} (passed : asserted checks flags = .ok after) :
    after = flags ∧ forall check, check ∈ checks -> check.1 = check.2 := by
  rw [asserted] at passed
  split at passed
  · rename_i holds
    exact ⟨(Except.ok.inj passed).symm, holds⟩
  · cases passed

/-- `TASK_DEAD` is one of two bits. -/
def DeadSettled (flags : TaskStateFlags) : Prop :=
  flags .taskDead = 64 ∨ flags .taskDead = 128

/-- The layout with `TASK_PARKED`. -/
theorem parkedLayout_ok (valid : flags.Valid) (parked : flags.hasFlag .taskParked = true)
    (passed : parkedLayout flags = .ok after) : after.Valid ∧ after.DeadSettled := by
  rcases asserted_ok passed with ⟨same, checks⟩
  have newbits := shiftLeft_nonneg (valid.nonneg parked) 1
  subst same
  constructor
  · refine valid.setAttrs ?_
    simp only [List.forall_mem_cons]
    exact ⟨newbits, shiftLeft_nonneg newbits 1, shiftLeft_nonneg newbits 2,
      shiftLeft_nonneg newbits 3, shiftLeft_nonneg newbits 4, List.forall_mem_nil _⟩
  · exact Or.inr (checks _ (List.mem_cons_of_mem _ List.mem_cons_self))

/-- The layout with `EXIT_DEAD` and without `TASK_PARKED`. -/
theorem exitDeadLayout_ok (valid : flags.Valid) (dead : flags.hasFlag .exitDead = true)
    (passed : exitDeadLayout flags = .ok after) : after.Valid ∧ after.DeadSettled := by
  rcases asserted_ok passed with ⟨same, checks⟩
  have nonneg := valid.nonneg dead
  have newbits : 0 ≤ if flags .exitZombie > flags .exitDead then flags .exitZombie <<< (1 : Nat)
      else flags .exitDead <<< (1 : Nat) := by
    split
    · rename_i greater
      exact shiftLeft_nonneg (Int.le_of_lt (Int.lt_of_le_of_lt nonneg greater)) 1
    · exact shiftLeft_nonneg nonneg 1
  subst same
  constructor
  · refine valid.setAttrs ?_
    simp only [List.forall_mem_cons]
    exact ⟨newbits, shiftLeft_nonneg newbits 1, shiftLeft_nonneg newbits 2,
      shiftLeft_nonneg newbits 3, shiftLeft_nonneg newbits 4, shiftLeft_nonneg newbits 5,
      List.forall_mem_nil _⟩
  · exact Or.inl (checks _ List.mem_cons_self)

/-- The layout with all states. -/
theorem fullLayout_ok (valid : flags.Valid) (passed : fullLayout flags = .ok after) :
    after.Valid ∧ after.DeadSettled := by
  rcases asserted_ok passed with ⟨same, checks⟩
  subst same
  exact ⟨valid, Or.inl (checks _ List.mem_cons_self)⟩

theorem settleLayout_ok (valid : flags.Valid) (passed : settleLayout flags = .ok after) :
    after.Valid ∧ after.DeadSettled := by
  rw [settleLayout] at passed
  split at passed
  · rename_i parked
    exact parkedLayout_ok valid (Bool.and_eq_true_iff.mp parked).1 passed
  · split at passed
    · rename_i dead
      exact exitDeadLayout_ok valid dead passed
    · exact fullLayout_ok valid passed

theorem settleIdle_ok (valid : flags.Valid) (dead : flags.DeadSettled)
    (passed : settleIdle flags = .ok after) : after.Valid ∧ after.DeadSettled := by
  rw [settleIdle] at passed
  split at passed
  · rcases asserted_ok passed with ⟨same, checks⟩
    subst same
    refine ⟨valid.setAttrs ?_, dead⟩
    intro value member
    rw [List.mem_singleton.mp member]
    have idle : Int.lor (flags .taskNoload) (flags .taskUninterruptible) = 1026 :=
      checks _ (List.mem_cons_of_mem _ List.mem_cons_self)
    change 0 ≤ Int.lor (flags .taskNoload) (flags .taskUninterruptible)
    rw [idle]
    decide
  · rw [← Except.ok.inj passed]
    exact ⟨valid, dead⟩

theorem checkNew_ok (passed : checkNew flags = .ok after) : after = flags := by
  rw [checkNew] at passed
  split at passed
  · exact (asserted_ok passed).1
  · exact (Except.ok.inj passed).symm

theorem checkStateBits_ok (passed : checkStateBits flags = .ok after) :
    after = flags ∧ forall flag, flag ∈ required -> flags.hasFlag flag = true := by
  simp only [checkStateBits] at passed
  split at passed
  · rename_i complete
    refine ⟨(Except.ok.inj passed).symm, ?_⟩
    intro flag member
    have found := List.filter_eq_nil_iff.mp complete flag member
    rw [Bool.not_eq_true, Bool.not_eq_false'] at found
    exact found
  · cases passed

/-- What is known of the attributes when the callback has accepted a kernel. -/
structure Settled (flags : TaskStateFlags) : Prop where
  valid : flags.Valid
  dead : flags.DeadSettled
  found : forall flag, flag ∈ required -> flags.hasFlag flag = true

/-- The callback as a whole. -/
theorem settled_of_callback {taskStateArray : List PyString}
    (accepted : taskStateFlagsCallback taskStateArray = .ok flags) : flags.Settled := by
  rcases except_bind_ok.mp accepted with ⟨third, accepted, complete⟩
  rcases except_bind_ok.mp accepted with ⟨second, accepted, fresh⟩
  rcases except_bind_ok.mp accepted with ⟨first, layout, idle⟩
  rcases settleLayout_ok (valid_initial.readStates 0 taskStateArray) layout with ⟨valid, dead⟩
  rcases settleIdle_ok valid dead idle with ⟨valid, dead⟩
  rcases checkStateBits_ok complete with ⟨same, found⟩
  rw [same]
  rw [checkNew_ok fresh] at found ⊢
  exact ⟨valid, dead, found⟩

end TaskStateFlags

/-! ## The state of a task -/

/-- The two fields of a `struct task_struct`, one of which older kernels do not have. -/
structure LinuxTask where
  state : Int
  exitState : Option Int

namespace LinuxTask

variable (flags : TaskStateFlags) (task : LinuxTask)

/-- `task_state`. -/
def taskState : Int :=
  match task.exitState with
  | none => task.state
  | some exitState => Int.lor task.state exitState

/-- The bits that `maybe_dead` knows. -/
def knownBits : Int :=
  let known := Int.lor (Int.lor (Int.lor (flags .taskInterruptible) (flags .taskUninterruptible))
    (flags .exitZombie)) (flags .taskStopped)
  if flags.hasFlag .taskSwapping then Int.lor known (flags .taskSwapping) else known

/-- `maybe_dead`. -/
def maybeDead : Bool :=
  Int.land task.taskState (knownBits flags) == 0

end LinuxTask
end Types
end CrashPython

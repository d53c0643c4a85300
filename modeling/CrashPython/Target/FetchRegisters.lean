import CrashPython.Library.PyString
import CrashPython.Types.Page
import Mathlib.Data.List.Infix

namespace CrashPython
namespace Target

open Library Types

/-!
# Fetching the registers of a thread

gdb asks `fetch_registers` of `crash/target/__init__.py` for the registers of a thread.  To
answer, the architecture code reads memory and symbols, and this can make gdb ask again
before the first answer is there.  The attribute `fetching` stops this recursion.  While it
is set, the answer is `None`.

The architecture code is a parameter.  What it does is a finite tree: it returns registers,
or raises an exception, or asks for the registers of some thread and goes on with the
answer.
-/

/-- The exceptions that can come out of the architecture code. -/
inductive FetchError where
  | attributeError
  | runtimeError (message : PyString)
  | gdb (error : GdbError)
  | other (kind : PyString)
deriving DecidableEq, Repr

mutual

/-- What `fetch_active` or `fetch_scheduled` does in one call. -/
inductive Behaviour (Registers : Type) where
  | returns (registers : Registers)
  | raises (error : FetchError)
  | nested (inner : FetchThread Registers)
      (answered : Except FetchError (Option Registers) -> Behaviour Registers)

/-- A thread, with `thread.info.active` and what the architecture code does for it. -/
inductive FetchThread (Registers : Type) where
  | mk (active : Except FetchError Bool) (fetchActive fetchScheduled : Behaviour Registers)

end

/-- The attribute `fetching`, and the number of times that a fetch was attempted. -/
structure FetchState where
  fetching : Bool := false
  attempts : Nat := 0
deriving DecidableEq, Repr

variable {Registers : Type}

/-- The end of `fetch_registers`: the `except` clause, and what follows the `try` statement.
An exception that is not caught leaves the method before the attribute is reset. -/
def leave : Except FetchError Registers × FetchState ->
    Except FetchError (Option Registers) × FetchState
  | (.ok registers, state) => (.ok (some registers), ⟨false, state.attempts⟩)
  | (.error .attributeError, state) => (.ok none, ⟨false, state.attempts⟩)
  | (.error error, state) => (.error error, state)

mutual

/-- The architecture code, from its start to its end. -/
def Behaviour.run : Behaviour Registers -> FetchState -> Except FetchError Registers × FetchState
  | .returns registers, state => (.ok registers, state)
  | .raises error, state => (.error error, state)
  | .nested inner answered, state =>
      let answer := inner.fetchRegisters state
      (answered answer.1).run answer.2

/-- `fetch_registers`. -/
def FetchThread.fetchRegisters :
    FetchThread Registers -> FetchState -> Except FetchError (Option Registers) × FetchState
  | .mk active fetchActive fetchScheduled, state =>
      if state.fetching then (.ok none, state)
      else
        let started : FetchState := ⟨true, state.attempts + 1⟩
        leave (match active with
          | .error error => (Except.error error, started)
          | .ok true => fetchActive.run started
          | .ok false => fetchScheduled.run started)

end

/-- How the architecture code ends when all that it asks for is answered by `None`. -/
def Behaviour.outcome : Behaviour Registers -> Except FetchError Registers
  | .returns registers => .ok registers
  | .raises error => .error error
  | .nested _ answered => (answered (.ok none)).outcome

namespace FetchThread

/-- How the body of the `try` statement ends when all nested calls are answered by `None`. -/
def outcome : FetchThread Registers -> Except FetchError Registers
  | .mk active fetchActive fetchScheduled =>
      match active with
      | .error error => .error error
      | .ok true => fetchActive.outcome
      | .ok false => fetchScheduled.outcome

/-- The body of the `try` statement returns, or raises the exception that is caught. -/
def Caught (thread : FetchThread Registers) : Prop :=
  forall error, thread.outcome = .error error -> error = .attributeError

/-- A call while another one is fetching. -/
theorem fetchRegisters_fetching (thread : FetchThread Registers) {state : FetchState}
    (fetching : state.fetching = true) : thread.fetchRegisters state = (.ok none, state) := by
  cases thread with
  | mk active fetchActive fetchScheduled => rw [fetchRegisters, if_pos fetching]

end FetchThread

/-- While the attribute is set, the architecture code gets only `None` and changes nothing. -/
theorem Behaviour.run_fetching (behaviour : Behaviour Registers) {state : FetchState}
    (fetching : state.fetching = true) : behaviour.run state = (behaviour.outcome, state) := by
  match behaviour with
  | .returns registers => rfl
  | .raises error => rfl
  | .nested inner answered =>
      rw [Behaviour.run, inner.fetchRegisters_fetching fetching, Behaviour.outcome]
      exact (answered (.ok none)).run_fetching fetching

namespace FetchThread

variable {thread : FetchThread Registers} {state : FetchState}

/-- A call while no other is fetching. -/
theorem fetchRegisters_idle (idle : state.fetching = false) :
    thread.fetchRegisters state = leave (thread.outcome, ⟨true, state.attempts + 1⟩) := by
  cases thread with
  | mk active fetchActive fetchScheduled =>
      rw [fetchRegisters, idle, if_neg Bool.false_ne_true]
      cases active with
      | error error => rfl
      | ok active =>
          cases active with
          | true => exact congrArg leave (fetchActive.run_fetching rfl)
          | false => exact congrArg leave (fetchScheduled.run_fetching rfl)

/-- An outermost call attempts a fetch, and it resets the attribute just if the exception,
if there is one, is the one that is caught. -/
theorem fetchRegisters_step (thread : FetchThread Registers) (idle : state.fetching = false) :
    (thread.fetchRegisters state).2.attempts = state.attempts + 1 ∧
      ((thread.fetchRegisters state).2.fetching = false <-> thread.Caught) := by
  rw [fetchRegisters_idle idle]
  simp only [Caught]
  cases thread.outcome with
  | ok registers =>
      refine ⟨rfl, fun _ error impossible => ?_, fun _ => rfl⟩
      cases impossible
  | error error =>
      by_cases caught : error = .attributeError
      · rw [caught]
        refine ⟨rfl, ?_, fun _ => rfl⟩
        intro _ other same
        exact (Except.error.inj same).symm
      · have escapes : @leave Registers (.error error, ⟨true, state.attempts + 1⟩) =
            (.error error, ⟨true, state.attempts + 1⟩) := by
          cases error <;> first | rfl | exact False.elim (caught rfl)
        rw [escapes]
        refine ⟨rfl, fun impossible => ?_, fun all => False.elim (caught (all error rfl))⟩
        cases impossible

end FetchThread

/-! ## Sequences of calls -/

/-- The state after some outermost calls. -/
def afterCalls (calls : List (FetchThread Registers)) (state : FetchState) : FetchState :=
  calls.foldl (fun state thread => (thread.fetchRegisters state).2) state

/-- After every outermost call the attribute is reset, and every call has attempted a fetch. -/
structure AlwaysFetches (calls : List (FetchThread Registers)) : Prop where
  reset : forall before, before <+: calls -> (afterCalls before {}).fetching = false
  attempted : forall before, before <+: calls -> (afterCalls before {}).attempts = before.length

/-- After calls whose exceptions are caught. -/
theorem afterCalls_caught (calls : List (FetchThread Registers)) {state : FetchState}
    (idle : state.fetching = false) (caught : forall thread, thread ∈ calls -> thread.Caught) :
    (afterCalls calls state).fetching = false ∧
      (afterCalls calls state).attempts = state.attempts + calls.length := by
  induction calls generalizing state with
  | nil => exact ⟨idle, rfl⟩
  | cons thread calls inductionHypothesis =>
      rcases thread.fetchRegisters_step idle with ⟨attempted, reset⟩
      have next := reset.mpr (caught thread List.mem_cons_self)
      rcases inductionHypothesis next fun later member => caught later (List.mem_cons_of_mem thread member) with
        ⟨idleAfter, attempts⟩
      refine ⟨idleAfter, ?_⟩
      change (afterCalls calls (thread.fetchRegisters state).2).attempts = _
      rw [attempts, attempted, List.length_cons]
      omega

/-- All outermost calls attempt a fetch just if no call ends with an exception other than
`AttributeError`. -/
theorem alwaysFetches_iff (calls : List (FetchThread Registers)) :
    AlwaysFetches calls <-> forall thread, thread ∈ calls -> thread.Caught := by
  constructor
  · intro always thread member
    rcases List.append_of_mem member with ⟨before, behind, same⟩
    have idle := always.reset before ⟨thread :: behind, same.symm⟩
    have next := always.reset (before ++ [thread]) ⟨behind, by rw [same, List.append_assoc]; rfl⟩
    rw [afterCalls, List.foldl_append] at next
    exact (thread.fetchRegisters_step idle).2.mp next
  · intro caught
    have run := fun before (start : before <+: calls) => @afterCalls_caught Registers before {} rfl
      fun thread member => caught thread (start.subset member)
    exact ⟨fun before start => (run before start).1,
      fun before start => (run before start).2.trans (Nat.zero_add _)⟩

/-! ## A thread that is not running -/

/-- The registers that are set for a thread that is not running.  Those that are read from the
frame are fetched later. -/
structure InactiveRegisters where
  rsp : Nat
  rip : Int
  frame : Nat
  cs : Nat := 2 * 8
  ss : Nat := 3 * 8
deriving DecidableEq, Repr

/-- What `_FetchRegistersInactiveFrame` of `crash/target/x86_64.py` reads: the words of the
stack, and whether the instruction at an address is a call of `__switch_to_asm`. -/
structure InactiveFrameTarget where
  word : Nat -> Except GdbError Nat
  callsSwitchTo : Int -> Bool
  filterAddress : Nat := 0xffff000000000000

/-- The fields of a task that are read. -/
structure ScheduledTask where
  stack : Except GdbError Nat
  sp : Except GdbError Nat

namespace InactiveFrameTarget

variable (target : InactiveFrameTarget)

/-- The loop of `find_scheduled_rip`, over the addresses of the words. -/
def scheduledRipAmong : List Nat -> Except FetchError Int
  | [] => .error (.runtimeError "Cannot locate stack frame offset for __schedule".toList)
  | rsp :: rest =>
      match target.word rsp with
      | .error error => .error (.gdb error)
      | .ok word =>
          let val : Int := word - 5
          if (target.filterAddress : Int) < val ∧ target.callsSwitchTo val = true then .ok val
          else scheduledRipAmong rest

/-- `find_scheduled_rip`: from the stack pointer to the top of the stack. -/
def findScheduledRip (stack sp : Nat) : Except FetchError Int :=
  let top := stack + 16 * 1024
  target.scheduledRipAmong ((List.range ((top - sp + 7) / 8)).map fun count => sp + 8 * count)

/-- `fetch_scheduled`.  The address that was found for an earlier thread is kept, and is 0
before. -/
def fetchScheduled (scheduledRip : Int) (taskStruct : Except FetchError ScheduledTask) :
    Behaviour InactiveRegisters :=
  match taskStruct with
  | .error error => .raises error
  | .ok task =>
      match task.sp with
      | .error error => .raises (.gdb error)
      | .ok rsp =>
          if scheduledRip ≠ 0 then .returns { rsp := rsp, rip := scheduledRip, frame := rsp }
          else
            match task.stack with
            | .error error => .raises (.gdb error)
            | .ok stack =>
                match target.findScheduledRip stack rsp with
                | .error error => .raises error
                | .ok rip => .returns { rsp := rsp, rip := rip, frame := rsp }

/-- A thread that is not running. -/
def scheduledThread (scheduledRip : Int) (taskStruct : Except FetchError ScheduledTask) :
    FetchThread InactiveRegisters :=
  .mk (.ok false) (.raises .attributeError) (target.fetchScheduled scheduledRip taskStruct)

end InactiveFrameTarget

/-- A stack of zeros, which has no return address of `__switch_to_asm`. -/
def zeroStack : InactiveFrameTarget where
  word := fun _ => .ok 0
  callsSwitchTo := fun _ => false

/-- A thread whose stack pointer is 16 bytes below the top of its stack. -/
def shortStack : ScheduledTask where
  stack := .ok 0
  sp := .ok (16 * 1024 - 16)

/-- The first call raises `RuntimeError`.  The second, for a running thread whose registers
are at hand, answers `None` without an attempt to fetch them. -/
theorem not_alwaysFetches_zeroStack :
    ((zeroStack.scheduledThread 0 (.ok shortStack)).fetchRegisters {}).1 =
        .error (.runtimeError "Cannot locate stack frame offset for __schedule".toList) ∧
      ((zeroStack.scheduledThread 0 (.ok shortStack)).fetchRegisters {}).2.fetching = true ∧
      (forall registers : InactiveRegisters,
        ((FetchThread.mk (.ok true) (.returns registers) (.returns registers)).fetchRegisters
          (afterCalls [zeroStack.scheduledThread 0 (.ok shortStack)] {})) = (.ok none, ⟨true, 1⟩)) ∧
      ¬ AlwaysFetches [zeroStack.scheduledThread 0 (.ok shortStack)] := by
  have stuck : ((zeroStack.scheduledThread 0 (.ok shortStack)).fetchRegisters {}).2.fetching = true := rfl
  refine ⟨rfl, stuck, fun _ => rfl, ?_⟩
  intro always
  have reset := always.reset _ (List.prefix_refl _)
  exact Bool.false_ne_true (reset.symm.trans stuck)

end Target
end CrashPython

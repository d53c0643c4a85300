import CrashPython.Library.Sweep
import Mathlib.Logic.Function.Basic

namespace CrashPython
namespace Infra

open Library

/-!
# The delayed-lookup infrastructure of `crash/infra/callback.py`

An `ObjfileEventCallback` object is connected until its condition is met and
its callback has run.  All objects share two lists on the class: the pending
list, swept on every new objfile, and the target waitlist, swept once the
target is ready.  Both lists are iterated while they are appended to, and the
clean-up of completed objects is deferred to the end of a sweep.

Objects are numbered in the order of their creation.  What `check_ready` and
the callback bodies do is not part of this module of the source; it is supplied
from outside as a `Response`.  A callback body may register further callbacks,
whose own responses are part of the script of the body.  The trace records
every call of `check_ready` and of a callback together with the flag of the
object that the call depends on.
-/

/-- A Python result as the `is` tests of the source see it. -/
inductive PyAnswer where
  | none
  | true
  | false
  | object
deriving DecidableEq, Repr

/-- What code outside this module can raise: gdb's own error, or anything
else. -/
inductive Raise where
  | gdbError
  | other
deriving DecidableEq, Repr

/-- An exception that `evaluate` does not catch. -/
inductive Escape where
  | callbackCompleted (callback : Nat)
  | other
deriving DecidableEq, Repr

/-- The result of one call of `check_ready`. -/
inductive CheckOutcome where
  | returned (answer : PyAnswer)
  | raised (error : Raise)
deriving DecidableEq, Repr

/-- The circumstances of a new callback object: its argument, whether the
target is already there, whether any objfile is loaded, and whether the code
that registers it catches an exception. -/
structure Registration where
  waitForTarget : Bool := true
  target : Bool := false
  objfiles : Bool := true
  caught : Bool := false
deriving DecidableEq, Repr

/-- The body of a callback: registrations in sequence, and how it ends.  A
registration brings the response of the new object, should it be evaluated. -/
inductive Script where
  | returned (answer : PyAnswer)
  | raised (error : Raise)
  | register (registration : Registration) (check : CheckOutcome) (body rest : Script)
deriving DecidableEq, Repr

/-- Everything an evaluated object does. -/
structure Response where
  check : CheckOutcome
  body : Script
deriving DecidableEq, Repr

/-- The response of an object whose condition is not met. -/
def Response.notReady : Response := ⟨.returned .none, .returned .none⟩

/-- The instance attributes of a callback object. -/
structure CallbackObject where
  completed : Bool := false
  connected : Bool := false
  waitingForTarget : Bool := false
  connectedToObjfileCallback : Option Bool := none
deriving DecidableEq, Repr

/-- The flags of an object that has been put on the pending list. -/
def CallbackObject.connect (object : CallbackObject) : CallbackObject :=
  { object with connected := true }

/-- The flags of a completed object. -/
def CallbackObject.finish (object : CallbackObject) : CallbackObject :=
  { object with completed := true, connected := false }

/-- The flags of an object whose target is there. -/
def CallbackObject.wake (object : CallbackObject) : CallbackObject :=
  { object with waitingForTarget := false }

/-- The calls a run makes into code outside this module, and the exceptions of
the class.  A call carries the state of the object at that moment. -/
inductive CallbackEvent where
  | checkReady (callback : Nat) (waiting : Bool)
  | called (callback : Nat) (completed : Bool)
  | raisedCompleted (callback : Nat)
deriving DecidableEq, Repr

/-- The class attributes, all objects, and how often the event handler was
connected to gdb. -/
structure CallbackState where
  object : Nat -> CallbackObject
  created : Nat
  targetWaitlist : List Nat
  pendingList : List Nat
  paused : Bool
  connectedToObjfileCallback : Bool
  handlers : Nat
  trace : List CallbackEvent

namespace CallbackState

/-- The module just after it was imported. -/
def initial : CallbackState where
  object := fun _ => {}
  created := 0
  targetWaitlist := []
  pendingList := []
  paused := false
  connectedToObjfileCallback := false
  handlers := 0
  trace := []

def record (event : CallbackEvent) (state : CallbackState) : CallbackState :=
  { state with trace := state.trace ++ [event] }

def setObject (callback : Nat) (object : CallbackObject) (state : CallbackState) : CallbackState :=
  { state with object := Function.update state.object callback object }

theorem setObject_self (callback : Nat) (object : CallbackObject) (state : CallbackState) :
    (state.setObject callback object).object callback = object :=
  Function.update_self _ _ _

theorem setObject_of_ne {callback other : Nat} (different : other ≠ callback) (object : CallbackObject)
    (state : CallbackState) : (state.setObject callback object).object other = state.object other :=
  Function.update_of_ne different _ _

/-- `_update_pending`: keep the connected entries. -/
def updatePending (state : CallbackState) : CallbackState :=
  { state with pendingList := state.pendingList.filter fun callback => (state.object callback).connected }

/-- `__init__`.  The flag for the event handler is read through the instance,
which finds the class attribute, and is written on the instance. -/
def construct (registration : Registration) (state : CallbackState) : CallbackState :=
  let waiting := registration.waitForTarget && !registration.target
  let fresh : CallbackObject := { waitingForTarget := waiting }
  let flag := fresh.connectedToObjfileCallback.getD state.connectedToObjfileCallback
  let object := if flag then fresh else { fresh with connectedToObjfileCallback := some true }
  { state.setObject state.created object with
    created := state.created + 1
    handlers := if flag then state.handlers else state.handlers + 1 }

/-- `complete`.  Only an object that was connected can be on the pending list. -/
def complete (callback : Nat) (updateNow : Bool) (state : CallbackState) :
    CallbackState × Option Escape :=
  let object := state.object callback
  if object.completed then
    (state.record (.raisedCompleted callback), some (.callbackCompleted callback))
  else
    let done := state.setObject callback object.finish
    (if object.connected && updateNow then done.updatePending else done, none)

/-- The end of `connect_callback` for an object that is still open. -/
def connect (callback : Nat) (state : CallbackState) : CallbackState :=
  { state.setObject callback (state.object callback).connect with
    pendingList := state.pendingList ++ [callback] }

end CallbackState

open CallbackState

/-- `result is None or result is False`. -/
def PyAnswer.notReady : PyAnswer -> Bool
  | .none => Bool.true
  | .false => Bool.true
  | _ => Bool.false

/-- `completed is True or completed is None`. -/
def PyAnswer.done : PyAnswer -> Bool
  | .true => Bool.true
  | .none => Bool.true
  | _ => Bool.false

/-- How the body of a callback ends for `evaluate`. -/
inductive BodyResult where
  | returned (answer : PyAnswer)
  | gdbError
  | escaped (escape : Escape)
deriving DecidableEq, Repr

/-- `evaluate`.  Only `gdb.error` is caught. -/
def evaluate (callback : Nat) (updateNow : Bool) (check : CheckOutcome)
    (body : CallbackState -> CallbackState × BodyResult) (state : CallbackState) :
    CallbackState × Option Escape :=
  if (state.object callback).waitingForTarget then (state, none)
  else
    let checked := state.record (.checkReady callback (state.object callback).waitingForTarget)
    match check with
    | .raised .gdbError => (checked, none)
    | .raised .other => (checked, some .other)
    | .returned answer =>
        if answer.notReady then (checked, none)
        else
          match body (checked.record (.called callback (checked.object callback).completed)) with
          | (after, .gdbError) => (after, none)
          | (after, .escaped escape) => (after, some escape)
          | (after, .returned completed) =>
              if completed.done then after.complete callback updateNow else (after, none)

/-- The first half of `connect_callback`: evaluate at once, or wait. -/
def connectEvaluate (callback : Nat) (objfiles : Bool) (check : CheckOutcome)
    (body : CallbackState -> CallbackState × BodyResult) (state : CallbackState) :
    CallbackState × Option Escape :=
  if (state.object callback).waitingForTarget then
    ({ state with targetWaitlist := state.targetWaitlist ++ [callback] }, none)
  else if objfiles then evaluate callback true check body state
  else (state, none)

/-- `connect_callback`, with its result or its exception. -/
def connectCallback (callback : Nat) (objfiles : Bool) (check : CheckOutcome)
    (body : CallbackState -> CallbackState × BodyResult) (state : CallbackState) :
    CallbackState × Except Escape Bool :=
  if (state.object callback).completed then
    (state.record (.raisedCompleted callback), .error (.callbackCompleted callback))
  else if (state.object callback).connected then (state, .ok false)
  else
    match connectEvaluate callback objfiles check body state with
    | (after, some escape) => (after, .error escape)
    | (after, none) =>
        if (after.object callback).completed then (after, .ok true)
        else (after.connect callback, .ok false)

/-- Construction followed by `connect_callback`, as every class of the source
does it. -/
def register (registration : Registration) (check : CheckOutcome)
    (body : CallbackState -> CallbackState × BodyResult) (state : CallbackState) :
    CallbackState × Except Escape Bool :=
  connectCallback state.created registration.objfiles check body (state.construct registration)

/-- The effect of a callback body. -/
def Script.run : Script -> CallbackState -> CallbackState × BodyResult
  | .returned answer, state => (state, .returned answer)
  | .raised .gdbError, state => (state, .gdbError)
  | .raised .other, state => (state, .escaped .other)
  | .register registration check body rest, state =>
      match Infra.register registration check body.run state with
      | (after, .ok _) => rest.run after
      | (after, .error escape) =>
          if registration.caught then rest.run after else (after, .escaped escape)

/-- One visit of the pending sweep. -/
def evaluateLater (callback : Nat) (response : Response) (state : CallbackState) :
    CallbackState × Option Escape :=
  evaluate callback false response.check response.body.run state

/-- `complete_wait_for_target`, one visit of the waitlist sweep. -/
def completeWaitForTarget (callback : Nat) (response : Response) (state : CallbackState) :
    CallbackState × Option Escape :=
  evaluateLater callback response
    (state.setObject callback (state.object callback).wake)

/-- `evaluate_all`. -/
def evaluateAll (responses : List Response) (state : CallbackState) : CallbackState × Option Escape :=
  if state.paused then (state, none)
  else
    match sweep CallbackState.pendingList evaluateLater .notReady responses 0 state with
    | (after, some escape) => (after, some escape)
    | (after, none) => (after.updatePending, none)

/-- `target_ready`. -/
def targetReady (responses : List Response) (state : CallbackState) : CallbackState × Option Escape :=
  match sweep CallbackState.targetWaitlist completeWaitForTarget .notReady responses 0 state with
  | (after, some escape) => (after, some escape)
  | (after, none) => ({ after with targetWaitlist := [] }.updatePending, none)

def pause (state : CallbackState) : CallbackState :=
  { state with paused := true }

def unpause (responses : List Response) (state : CallbackState) : CallbackState × Option Escape :=
  evaluateAll responses { state with paused := false }

/-- A new-objfile event.  gdb calls the handler once for each time it was
connected before the event, prints an exception of a handler and goes on.  The
responses are listed by handler call. -/
def newObjfile (calls : List (List Response)) (state : CallbackState) : CallbackState :=
  (List.range state.handlers).foldl
    (fun state call => (evaluateAll (calls[call]?.getD []) state).1) state

/-- The operations of a run. -/
inductive Operation where
  | register (registration : Registration) (response : Response)
  | newObjfile (calls : List (List Response))
  | pause
  | unpause (responses : List Response)
  | targetReady (responses : List Response)
deriving DecidableEq, Repr

/-- The state after an operation, whether or not an exception left it. -/
def Operation.run : Operation -> CallbackState -> CallbackState
  | .register registration response, state =>
      (Infra.register registration response.check response.body.run state).1
  | .newObjfile calls, state => Infra.newObjfile calls state
  | .pause, state => Infra.pause state
  | .unpause responses, state => (Infra.unpause responses state).1
  | .targetReady responses, state => (Infra.targetReady responses state).1

/-- The state after a sequence of operations on the freshly imported module. -/
def runOperations (operations : List Operation) : CallbackState :=
  operations.foldl (fun state operation => operation.run state) CallbackState.initial

end Infra
end CrashPython

import CrashPython.Infra.Callback
import Mathlib.Data.List.Nodup

namespace CrashPython
namespace Infra

open Library

/-!
# What registering callbacks does to the shared state

A callback body can register further callbacks, each of which may be evaluated
on the spot and register more.  However deep this nests, its effect on what was
there before is one and the same: new objects are added, old objects keep all
their flags, and both lists only grow at their ends.  `Registers` states that
effect, and `Script.run_spec` proves it for every script, together with the
fact that how a body ends can be computed from the script alone.
-/

/-- What becomes of an evaluated object. -/
inductive Outcome where
  | stays
  | escapes
  | completes
deriving DecidableEq, Repr

def BodyResult.outcome : BodyResult -> Outcome
  | .returned answer => if answer.done then .completes else .stays
  | .gdbError => .stays
  | .escaped _ => .escapes

/-- The outcome of an evaluation, given how the callback body would end. -/
def CheckOutcome.outcome (body : BodyResult) : CheckOutcome -> Outcome
  | .raised .gdbError => .stays
  | .raised .other => .escapes
  | .returned answer => if answer.notReady then .stays else body.outcome

/-- Whether `connect_callback` evaluates the new object. -/
def Registration.evaluates (registration : Registration) : Bool :=
  !(registration.waitForTarget && !registration.target) && registration.objfiles

/-- How a callback body ends.  No state is consulted. -/
def Script.result : Script -> BodyResult
  | .returned answer => .returned answer
  | .raised .gdbError => .gdbError
  | .raised .other => .escaped .other
  | .register registration check body rest =>
      if registration.evaluates ∧ check.outcome body.result = .escapes ∧ registration.caught = false then
        .escaped .other
      else rest.result

def Response.outcome (response : Response) : Outcome :=
  response.check.outcome response.body.result

/-- The object that an event is about. -/
def CallbackEvent.callback : CallbackEvent -> Nat
  | .checkReady callback _ => callback
  | .called callback _ => callback
  | .raisedCompleted callback => callback

/-- No call of `check_ready` on a waiting object, no call of a completed
callback, and no `CallbackCompleted`. -/
def CallbackEvent.sound : CallbackEvent -> Bool
  | .checkReady _ waiting => !waiting
  | .called _ completed => !completed
  | .raisedCompleted _ => false

/-- A sound event about an object that did not exist before. -/
def CallbackEvent.Fresh (bound : Nat) (event : CallbackEvent) : Prop :=
  event.sound = true ∧ bound ≤ event.callback

/-- The flags of an object between operations. -/
structure CallbackObject.Settled (object : CallbackObject) : Prop where
  notBoth : object.connected = true -> object.completed = false
  waits : object.waitingForTarget = true -> object.connected = true

theorem CallbackObject.Settled.of_apart {object : CallbackObject} (unconnected : object.connected = false)
    (active : object.waitingForTarget = false) : object.Settled := by
  constructor
  · intro connected
    rw [unconnected] at connected
    cases connected
  · intro waiting
    rw [active] at waiting
    cases waiting

/-- A list that grew at its end by exactly the new objects with a flag. -/
def GrewBy (flag : CallbackObject -> Bool) (before after : CallbackState)
    (early late : List Nat) : Prop :=
  Exists fun added : List Nat => late = early ++ added ∧ added.Nodup ∧
    forall callback, callback ∈ added <->
      before.created ≤ callback ∧ callback < after.created ∧ flag (after.object callback) = true

/-- `after` arises from `before` by registrations only, with nothing but the
allowed events in between. -/
structure Registers (allowed : CallbackEvent -> Prop) (before after : CallbackState) : Prop where
  grows : before.created ≤ after.created
  frame : forall callback, callback < before.created -> after.object callback = before.object callback
  paused : after.paused = before.paused
  flag : after.connectedToObjfileCallback = before.connectedToObjfileCallback
  pending : GrewBy CallbackObject.connected before after before.pendingList after.pendingList
  waitlist : GrewBy CallbackObject.waitingForTarget before after before.targetWaitlist after.targetWaitlist
  settled : forall callback, before.created ≤ callback -> callback < after.created ->
    (after.object callback).Settled
  handlers : before.connectedToObjfileCallback = false ->
    after.handlers + before.created = before.handlers + after.created
  trace : Exists fun added : List CallbackEvent => after.trace = before.trace ++ added ∧
    forall event, event ∈ added -> allowed event

theorem GrewBy.refl {flag : CallbackObject -> Bool} {state : CallbackState} {values : List Nat}
    {after : CallbackState} (same : after.created = state.created) :
    GrewBy flag state after values values := by
  refine ⟨[], (List.append_nil values).symm, List.nodup_nil, ?_⟩
  intro callback
  constructor
  · intro impossible
    cases impossible
  · rintro ⟨above, below, _⟩
    omega

theorem GrewBy.trans {flag : CallbackObject -> Bool} {first second third : CallbackState}
    {early middle late : List Nat} (ordered : first.created ≤ second.created)
    (grows : second.created ≤ third.created)
    (frame : forall callback, callback < second.created -> third.object callback = second.object callback)
    (left : GrewBy flag first second early middle) (right : GrewBy flag second third middle late) :
    GrewBy flag first third early late := by
  rcases left with ⟨added, shape, unique, members⟩
  rcases right with ⟨added', shape', unique', members'⟩
  refine ⟨added ++ added', by rw [shape', shape, List.append_assoc], ?_, ?_⟩
  · rw [List.nodup_append]
    refine ⟨unique, unique', ?_⟩
    intro callback early callback' late same
    subst same
    have below := ((members callback).mp early).2.1
    have above := ((members' callback).mp late).1
    omega
  · intro callback
    rw [List.mem_append, members, members']
    constructor
    · rintro (⟨above, below, set⟩ | ⟨above, below, set⟩)
      · exact ⟨above, Nat.lt_of_lt_of_le below grows, by rw [frame callback below]; exact set⟩
      · exact ⟨Nat.le_trans ordered above, below, set⟩
    · rintro ⟨above, below, set⟩
      rcases Nat.lt_or_ge callback second.created with old | new
      · exact Or.inl ⟨above, old, by rw [← frame callback old]; exact set⟩
      · exact Or.inr ⟨new, below, set⟩

namespace Registers

variable {allowed : CallbackEvent -> Prop} {first second third : CallbackState}

theorem refl (state : CallbackState) : Registers allowed state state where
  grows := Nat.le_refl _
  frame := fun _ _ => rfl
  paused := rfl
  flag := rfl
  pending := GrewBy.refl rfl
  waitlist := GrewBy.refl rfl
  settled := fun callback above below => False.elim (by omega)
  handlers := fun _ => rfl
  trace := ⟨[], (List.append_nil _).symm, fun _ impossible => by cases impossible⟩

theorem trans (left : Registers allowed first second) (right : Registers allowed second third) :
    Registers allowed first third where
  grows := Nat.le_trans left.grows right.grows
  frame := by
    intro callback old
    rw [right.frame callback (Nat.lt_of_lt_of_le old left.grows), left.frame callback old]
  paused := right.paused.trans left.paused
  flag := right.flag.trans left.flag
  pending := left.pending.trans left.grows right.grows right.frame right.pending
  waitlist := left.waitlist.trans left.grows right.grows right.frame right.waitlist
  settled := by
    intro callback above below
    rcases Nat.lt_or_ge callback second.created with old | new
    · rw [right.frame callback old]
      exact left.settled callback above old
    · exact right.settled callback new below
  handlers := by
    intro unset
    have one := left.handlers unset
    have two := right.handlers (left.flag.trans unset)
    omega
  trace := by
    rcases left.trace with ⟨added, shape, sound⟩
    rcases right.trace with ⟨added', shape', sound'⟩
    refine ⟨added ++ added', by rw [shape', shape, List.append_assoc], ?_⟩
    intro event member
    rcases List.mem_append.mp member with early | late
    · exact sound event early
    · exact sound' event late

theorem mono {wider : CallbackEvent -> Prop} (step : Registers allowed first second)
    (weaker : forall event, allowed event -> wider event) : Registers wider first second where
  grows := step.grows
  frame := step.frame
  paused := step.paused
  flag := step.flag
  pending := step.pending
  waitlist := step.waitlist
  settled := step.settled
  handlers := step.handlers
  trace := by
    rcases step.trace with ⟨added, shape, sound⟩
    exact ⟨added, shape, fun event member => weaker event (sound event member)⟩

/-- Recording an event registers nothing. -/
theorem record {event : CallbackEvent} (state : CallbackState) (permitted : allowed event) :
    Registers allowed state (state.record event) where
  grows := Nat.le_refl _
  frame := fun _ _ => rfl
  paused := rfl
  flag := rfl
  pending := GrewBy.refl rfl
  waitlist := GrewBy.refl rfl
  settled := fun callback above below => False.elim (Nat.lt_irrefl _ (Nat.lt_of_le_of_lt above below))
  handlers := fun _ => rfl
  trace := by
    refine ⟨[event], rfl, ?_⟩
    intro recorded member
    rw [List.mem_singleton.mp member]
    exact permitted

end Registers

/-! ## One new object -/

theorem construct_object (registration : Registration) (state : CallbackState) :
    ((state.construct registration).object state.created).completed = false ∧
      ((state.construct registration).object state.created).connected = false ∧
      ((state.construct registration).object state.created).waitingForTarget =
        (registration.waitForTarget && !registration.target) := by
  simp only [CallbackState.construct, CallbackState.setObject, Function.update_self, Option.getD_none]
  cases state.connectedToObjfileCallback <;> exact ⟨rfl, rfl, rfl⟩

theorem construct_frame (registration : Registration) (state : CallbackState) {callback : Nat}
    (old : callback < state.created) :
    (state.construct registration).object callback = state.object callback := by
  simp only [CallbackState.construct, CallbackState.setObject]
  exact Function.update_of_ne (Nat.ne_of_lt old) _ _

/-- The state in which a new object has reached its final flags: on the lists
if and only if its flags say so. -/
def settle (callback : Nat) (object : CallbackObject) (state : CallbackState) : CallbackState :=
  { state.setObject callback object with
    pendingList := state.pendingList ++ (if object.connected then [callback] else [])
    targetWaitlist := state.targetWaitlist ++ (if object.waitingForTarget then [callback] else []) }

theorem settle_frame {callback other : Nat} {object : CallbackObject} {state : CallbackState}
    (different : other ≠ callback) : (settle callback object state).object other = state.object other :=
  Function.update_of_ne different _ _

theorem settle_self (callback : Nat) (object : CallbackObject) (state : CallbackState) :
    (settle callback object state).object callback = object :=
  Function.update_self _ _ _

/-- A list of new objects with the object itself appended by its flag. -/
theorem GrewBy.settle {flag : CallbackObject -> Bool} {registration : Registration}
    {before after : CallbackState} {object : CallbackObject} {early late : List Nat}
    (grew : GrewBy flag (before.construct registration) after early late)
    (room : before.created < after.created) :
    GrewBy flag before (settle before.created object after) early
      (late ++ if flag object then [before.created] else []) := by
  rcases grew with ⟨added, shape, unique, members⟩
  have later : forall callback, callback ∈ added -> before.created < callback := by
    intro callback member
    exact ((members callback).mp member).1
  have tail : forall callback, callback ∈ (if flag object then [before.created] else []) <->
      callback = before.created ∧ flag object = true := by
    intro callback
    cases flag object with
    | false =>
        constructor
        · intro impossible
          cases impossible
        · rintro ⟨_, impossible⟩
          cases impossible
    | true =>
        rw [if_pos rfl, List.mem_singleton]
        exact ⟨fun same => ⟨same, rfl⟩, fun both => both.1⟩
  refine ⟨added ++ if flag object then [before.created] else [], ?_, ?_, ?_⟩
  · rw [shape, List.append_assoc]
  · rw [List.nodup_append]
    refine ⟨unique, ?_, ?_⟩
    · cases flag object with
      | false => exact List.nodup_nil
      | true => exact List.nodup_singleton _
    · intro callback member callback' last same
      have above := later callback member
      have here := ((tail callback').mp last).1
      omega
  · intro callback
    rw [List.mem_append, tail, members]
    by_cases self : callback = before.created
    · subst self
      rw [settle_self]
      constructor
      · rintro (⟨above, _⟩ | ⟨_, set⟩)
        · exact False.elim (Nat.lt_irrefl _ above)
        · exact ⟨Nat.le_refl _, room, set⟩
      · rintro ⟨_, _, set⟩
        exact Or.inr ⟨rfl, set⟩
    · rw [settle_frame self]
      constructor
      · rintro (⟨above, below, set⟩ | ⟨same, _⟩)
        · exact ⟨Nat.le_of_succ_le above, below, set⟩
        · exact False.elim (self same)
      · rintro ⟨above, below, set⟩
        exact Or.inl ⟨Nat.lt_of_le_of_ne above (Ne.symm self), below, set⟩

/-- Constructing an object, registering others meanwhile, and giving it its
final flags is again a registration. -/
theorem Registers.settle {registration : Registration} {before after : CallbackState}
    (step : Registers (CallbackEvent.Fresh before.created) (before.construct registration) after)
    {object : CallbackObject} (settled : object.Settled) :
    Registers (CallbackEvent.Fresh before.created) before
      (Infra.settle before.created object after) where
  grows := Nat.le_of_succ_le step.grows
  frame := by
    intro callback old
    rw [settle_frame (Nat.ne_of_lt old), step.frame callback (Nat.lt_succ_of_lt old),
      construct_frame registration before old]
  paused := step.paused
  flag := step.flag
  pending := step.pending.settle step.grows
  waitlist := step.waitlist.settle step.grows
  settled := by
    intro callback above below
    by_cases self : callback = before.created
    · subst self
      rw [settle_self]
      exact settled
    · rw [settle_frame self]
      exact step.settled callback (Nat.lt_of_le_of_ne above (Ne.symm self)) below
  handlers := by
    intro unset
    have counted := step.handlers unset
    have one : (before.construct registration).handlers = before.handlers + 1 := by
      simp only [CallbackState.construct, Option.getD_none, unset, Bool.false_eq_true, if_false]
    have created : (before.construct registration).created = before.created + 1 := rfl
    change after.handlers + before.created = before.handlers + after.created
    omega
  trace := step.trace

/-! ## Evaluation -/

/-- Whether the answer of `check_ready` leads to a call of the callback. -/
def CheckOutcome.ready : CheckOutcome -> Bool
  | .returned answer => !answer.notReady
  | .raised _ => false

/-- The calls that an evaluation makes on the object itself. -/
def CheckOutcome.calls (callback : Nat) (completed : Bool) (check : CheckOutcome) : List CallbackEvent :=
  .checkReady callback false :: if check.ready then [.called callback completed] else []

theorem CheckOutcome.mem_calls {callback : Nat} {completed : Bool} {check : CheckOutcome}
    {event : CallbackEvent} (member : event ∈ check.calls callback completed) :
    event = .checkReady callback false ∨ event = .called callback completed := by
  rcases List.mem_cons.mp member with first | second
  · exact Or.inl first
  · cases ready : check.ready with
    | true =>
        rw [ready, if_pos rfl] at second
        exact Or.inr (List.mem_singleton.mp second)
    | false =>
        rw [ready, if_neg Bool.false_ne_true] at second
        cases second

/-- The calls on an open object are sound. -/
theorem CheckOutcome.calls_fresh {callback bound : Nat} {check : CheckOutcome} {event : CallbackEvent}
    (above : bound ≤ callback) (member : event ∈ check.calls callback false) : event.Fresh bound := by
  rcases CheckOutcome.mem_calls member with first | second
  · rw [first]
    exact ⟨rfl, above⟩
  · rw [second]
    exact ⟨rfl, above⟩

/-- A callback body that only registers, with a known way to end. -/
structure BodySpec (body : CallbackState -> CallbackState × BodyResult) (result : BodyResult) : Prop where
  runs : forall state, Exists fun after : CallbackState =>
    Registers (CallbackEvent.Fresh state.created) state after ∧ body state = (after, result)
  clean : forall escape, result = .escaped escape -> escape = .other

/-- What becomes of the object after the calls of an evaluation. -/
def finishEvaluation (callback : Nat) (updateNow : Bool) (after : CallbackState) :
    Outcome -> CallbackState × Option Escape
  | .stays => (after, none)
  | .escapes => (after, some .other)
  | .completes => after.complete callback updateNow

/-- The state between the calls of an evaluation and its finish. -/
structure Evaluates (callback : Nat) (check : CheckOutcome) (before after : CallbackState) : Prop where
  registers : Registers (fun event => event ∈ check.calls callback (before.object callback).completed ∨
    event.Fresh before.created) before after
  trace : Exists fun added : List CallbackEvent =>
    after.trace = before.trace ++ (check.calls callback (before.object callback).completed ++ added) ∧
      forall event, event ∈ added -> event.Fresh before.created

theorem evaluates_checked {callback : Nat} {check : CheckOutcome} {state : CallbackState}
    (unready : check.ready = false) :
    Evaluates callback check state (state.record (.checkReady callback false)) where
  registers := Registers.record state (Or.inl List.mem_cons_self)
  trace := by
    refine ⟨[], ?_, fun _ impossible => by cases impossible⟩
    simp only [CheckOutcome.calls, unready, CallbackState.record, Bool.false_eq_true, if_false,
      List.append_nil]

theorem evaluates_called {callback : Nat} {check : CheckOutcome} {state after : CallbackState}
    (ready : check.ready = true)
    (body : Registers (CallbackEvent.Fresh state.created)
      ((state.record (.checkReady callback false)).record
        (.called callback (state.object callback).completed)) after) :
    Evaluates callback check state after where
  registers := by
    have calls : check.calls callback (state.object callback).completed =
        [.checkReady callback false, .called callback (state.object callback).completed] := by
      rw [CheckOutcome.calls, if_pos ready]
    rw [calls]
    refine ((Registers.record state ?_).trans (Registers.record _ ?_)).trans
      (body.mono fun event new => Or.inr new)
    · exact Or.inl List.mem_cons_self
    · exact Or.inl (List.mem_cons_of_mem _ List.mem_cons_self)
  trace := by
    rcases body.trace with ⟨added, shape, fresh⟩
    refine ⟨added, ?_, fresh⟩
    simp only [shape, CallbackState.record, CheckOutcome.calls, ready, if_true, List.append_assoc,
      List.cons_append, List.nil_append]

theorem evaluate_waiting {callback : Nat} {state : CallbackState}
    (waiting : (state.object callback).waitingForTarget = true) (updateNow : Bool)
    (check : CheckOutcome) (body : CallbackState -> CallbackState × BodyResult) :
    evaluate callback updateNow check body state = (state, none) := by
  rw [evaluate, if_pos waiting]

/-- The spec of `evaluate` on an object that is not waiting. -/
theorem evaluate_spec {body : CallbackState -> CallbackState × BodyResult} {result : BodyResult}
    (spec : BodySpec body result) {callback : Nat} {state : CallbackState}
    (active : (state.object callback).waitingForTarget = false) (updateNow : Bool)
    (check : CheckOutcome) :
    Exists fun after : CallbackState => Evaluates callback check state after ∧
      evaluate callback updateNow check body state =
        finishEvaluation callback updateNow after (check.outcome result) := by
  simp only [evaluate]
  rw [if_neg (by rw [active]; exact Bool.false_ne_true), active]
  cases check with
  | raised error =>
      cases error with
      | gdbError => exact ⟨_, evaluates_checked rfl, rfl⟩
      | other => exact ⟨_, evaluates_checked rfl, rfl⟩
  | returned answer =>
      cases ready : answer.notReady with
      | true =>
          refine ⟨_, evaluates_checked ?_, ?_⟩
          · simp only [CheckOutcome.ready, ready, Bool.not_true]
          · simp only [CheckOutcome.outcome, ready, if_true]
            rfl
      | false =>
          simp only [ready, Bool.false_eq_true, if_false]
          rcases spec.runs ((state.record (.checkReady callback false)).record
            (.called callback (state.object callback).completed)) with ⟨after, registers, ran⟩
          have flag : ((state.record (.checkReady callback false)).object callback).completed =
              (state.object callback).completed := rfl
          rw [flag]
          refine ⟨after, evaluates_called ?_ registers, ?_⟩
          · simp only [CheckOutcome.ready, ready, Bool.not_false]
          · simp only [ran, CheckOutcome.outcome, ready, Bool.false_eq_true, if_false]
            cases result with
            | gdbError => rfl
            | escaped escape =>
                rw [spec.clean escape rfl]
                rfl
            | returned answer =>
                simp only [BodyResult.outcome]
                cases answer.done <;> rfl

/-! ## Registration -/

/-- Whether registering raises, from the arguments alone. -/
def registrationEscapes (registration : Registration) (check : CheckOutcome) (result : BodyResult) : Bool :=
  registration.evaluates && decide (check.outcome result = .escapes)

theorem settle_connect {callback : Nat} {state : CallbackState}
    (active : (state.object callback).waitingForTarget = false) :
    settle callback (state.object callback).connect state = state.connect callback := by
  simp only [settle, CallbackObject.connect, CallbackState.connect, active, Bool.false_eq_true,
    if_false, if_true, List.append_nil]
  rfl

theorem settle_wait {callback : Nat} {state : CallbackState}
    (waiting : (state.object callback).waitingForTarget = true) :
    settle callback (state.object callback).connect state =
      CallbackState.connect callback
        { state with targetWaitlist := state.targetWaitlist ++ [callback] } := by
  simp only [settle, CallbackObject.connect, CallbackState.connect, waiting, if_true]
  rfl

theorem settle_apart {callback : Nat} {state : CallbackState} {object : CallbackObject}
    (unconnected : object.connected = false) (active : object.waitingForTarget = false) :
    settle callback object state = state.setObject callback object := by
  simp only [settle, unconnected, active, Bool.false_eq_true, if_false, List.append_nil]
  rfl

/-- `connect_callback` on an open object, by the result of its first half. -/
theorem connectCallback_open {callback : Nat} {objfiles : Bool} {check : CheckOutcome}
    {body : CallbackState -> CallbackState × BodyResult} {state : CallbackState}
    (unfinished : (state.object callback).completed = false)
    (unconnected : (state.object callback).connected = false) :
    connectCallback callback objfiles check body state =
      match connectEvaluate callback objfiles check body state with
      | (after, some escape) => (after, .error escape)
      | (after, none) =>
          if (after.object callback).completed then (after, .ok true)
          else (after.connect callback, .ok false) := by
  rw [connectCallback, if_neg (by rw [unfinished]; exact Bool.false_ne_true)]
  exact if_neg (by rw [unconnected]; exact Bool.false_ne_true)

section NewObject

variable {registration : Registration} {state : CallbackState}

/-- A new object that was never evaluated is connected. -/
theorem Registers.connectFresh (registration : Registration) (state : CallbackState) :
    Registers (CallbackEvent.Fresh state.created) state
      (Infra.settle state.created ((state.construct registration).object state.created).connect
        (state.construct registration)) := by
  apply Registers.settle (Registers.refl _)
  exact ⟨fun _ => (construct_object registration state).1, fun _ => rfl⟩

/-- The evaluated new object, whatever its outcome, ends with settled flags. -/
theorem connectCallback_evaluated {body : CallbackState -> CallbackState × BodyResult}
    {result : BodyResult} (spec : BodySpec body result) (check : CheckOutcome)
    (active : ((state.construct registration).object state.created).waitingForTarget = false) :
    Exists fun after : CallbackState =>
      Registers (CallbackEvent.Fresh state.created) state after ∧
        Exists fun connected : Bool =>
          connectCallback state.created true check body (state.construct registration) =
            (after, if check.outcome result = .escapes then .error .other else .ok connected) := by
  rcases construct_object registration state with ⟨unfinished, unconnected, _⟩
  rcases evaluate_spec spec active true check with ⟨after, calls, evaluated⟩
  have step : Registers (CallbackEvent.Fresh state.created) (state.construct registration) after := by
    apply calls.registers.mono
    rintro event (self | new)
    · rw [unfinished] at self
      exact CheckOutcome.calls_fresh (Nat.le_refl _) self
    · exact ⟨new.1, Nat.le_of_succ_le new.2⟩
  have same := calls.registers.frame state.created (Nat.lt_succ_self _)
  rw [← same] at unfinished unconnected active
  have evaluates : connectEvaluate state.created true check body (state.construct registration) =
      finishEvaluation state.created true after (check.outcome result) := by
    rw [connectEvaluate, if_neg (by rw [← same, active]; exact Bool.false_ne_true), if_pos rfl]
    exact evaluated
  rw [connectCallback_open (by rw [← same]; exact unfinished) (by rw [← same]; exact unconnected),
    evaluates]
  cases check.outcome result with
  | stays =>
      refine ⟨settle state.created (after.object state.created).connect after, ?_, false, ?_⟩
      · exact step.settle ⟨fun _ => unfinished, fun _ => rfl⟩
      · simp only [finishEvaluation, unfinished, Bool.false_eq_true, if_false, settle_connect active,
          reduceCtorEq]
  | escapes =>
      refine ⟨settle state.created (after.object state.created) after, ?_, false, ?_⟩
      · exact step.settle (CallbackObject.Settled.of_apart unconnected active)
      · rw [settle_apart unconnected active, CallbackState.setObject, Function.update_eq_self]
        rfl
  | completes =>
      have finished : (after.object state.created).finish.waitingForTarget = false := active
      refine ⟨settle state.created (after.object state.created).finish after, ?_, true, ?_⟩
      · exact step.settle (CallbackObject.Settled.of_apart rfl finished)
      · rw [settle_apart rfl finished]
        simp only [finishEvaluation, CallbackState.complete, unfinished, unconnected,
          Bool.false_eq_true, if_false, Bool.false_and, CallbackState.setObject, Function.update_self,
          CallbackObject.finish, if_true, reduceCtorEq]

/-- The spec of `register`: it only registers, and whether it raises is known
from its arguments. -/
theorem register_spec {body : CallbackState -> CallbackState × BodyResult} {result : BodyResult}
    (spec : BodySpec body result) (registration : Registration) (check : CheckOutcome)
    (state : CallbackState) :
    Exists fun after : CallbackState =>
      Registers (CallbackEvent.Fresh state.created) state after ∧
        Exists fun connected : Bool => register registration check body state =
          (after, if registrationEscapes registration check result then .error .other else .ok connected) := by
  rcases construct_object registration state with ⟨unfinished, unconnected, waits⟩
  unfold register registrationEscapes Registration.evaluates
  cases waiting : registration.waitForTarget && !registration.target with
  | true =>
      rw [waiting] at waits
      refine ⟨_, Registers.connectFresh registration state, false, ?_⟩
      rw [connectCallback_open unfinished unconnected, connectEvaluate, if_pos waits, settle_wait waits]
      simp only [unfinished, Bool.false_eq_true, if_false, Bool.not_true, Bool.false_and]
  | false =>
      rw [waiting] at waits
      cases registration.objfiles with
      | false =>
          refine ⟨_, Registers.connectFresh registration state, false, ?_⟩
          rw [connectCallback_open unfinished unconnected, connectEvaluate,
            if_neg (by rw [waits]; exact Bool.false_ne_true), if_neg Bool.false_ne_true,
            settle_connect waits]
          simp only [unfinished, Bool.false_eq_true, if_false, Bool.and_false, Bool.false_and]
      | true =>
          rcases connectCallback_evaluated spec check waits with ⟨after, step, connected, result⟩
          refine ⟨after, step, connected, ?_⟩
          rw [result]
          simp only [Bool.not_false, Bool.and_self, Bool.true_and, decide_eq_true_eq]

end NewObject

/-! ## Scripts -/

theorem Script.result_clean (script : Script) (escape : Escape)
    (escaped : script.result = .escaped escape) : escape = .other := by
  induction script with
  | returned answer => cases escaped
  | raised error =>
      cases error with
      | gdbError => cases escaped
      | other =>
          cases escaped
          rfl
  | register registration check body rest _ restClean =>
      rw [Script.result] at escaped
      split at escaped
      · cases escaped
        rfl
      · exact restClean escaped

/-- Every callback body only registers, and ends as its script says. -/
theorem Script.run_spec (script : Script) : BodySpec script.run script.result := by
  refine ⟨?_, script.result_clean⟩
  induction script with
  | returned answer => exact fun state => ⟨state, Registers.refl state, rfl⟩
  | raised error =>
      cases error with
      | gdbError => exact fun state => ⟨state, Registers.refl state, rfl⟩
      | other => exact fun state => ⟨state, Registers.refl state, rfl⟩
  | register registration check body rest bodyRuns restRuns =>
      intro state
      rcases register_spec ⟨bodyRuns, body.result_clean⟩ registration check state with
        ⟨middle, first, connected, registered⟩
      rcases restRuns middle with ⟨after, second, ran⟩
      have both : Registers (CallbackEvent.Fresh state.created) state after :=
        first.trans (second.mono fun event new => ⟨new.1, Nat.le_trans first.grows new.2⟩)
      simp only [Script.run, registered, Script.result, registrationEscapes, Bool.and_eq_true,
        decide_eq_true_eq]
      by_cases escapes : registration.evaluates = true ∧ check.outcome body.result = .escapes
      · rw [if_pos escapes]
        cases registration.caught with
        | false =>
            refine ⟨middle, first, ?_⟩
            simp only [escapes.1, escapes.2, and_self, if_true, Bool.false_eq_true, if_false]
        | true =>
            refine ⟨after, both, ?_⟩
            simp only [if_true, ran, Bool.true_eq_false, and_false, if_false]
      · rw [if_neg escapes]
        refine ⟨after, both, ?_⟩
        rw [if_neg (fun all => escapes ⟨all.1, all.2.1⟩)]
        exact ran

end Infra
end CrashPython

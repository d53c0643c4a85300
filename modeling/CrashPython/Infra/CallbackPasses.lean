import CrashPython.Infra.CallbackInvariant

namespace CrashPython
namespace Infra

open Library

/-!
# Passes over the pending list and over the waitlist

Each of the two loops has an invariant of its own, which speaks about the
position of the loop and about the responses still to come.  Ahead of the
position everything is connected.  Behind it a callback may have been
completed, in which case no later response of the pass may raise.
-/

/-- Nothing raises after a callback was completed in the same pass. -/
def TidyPass (responses : List Response) : Prop :=
  responses.Pairwise fun earlier later => earlier.outcome = .completes -> later.outcome ≠ .escapes

theorem TidyPass.of_clean {responses : List Response}
    (clean : forall response, response ∈ responses -> response.outcome ≠ .escapes) :
    TidyPass responses :=
  List.pairwise_of_forall_mem_list fun _ _ _ member _ => clean _ member

/-! ## One visit -/

/-- A visit of an object that is not waiting. -/
theorem evaluateLater_spec {callback : Nat} {state : CallbackState}
    (active : (state.object callback).waitingForTarget = false) (response : Response) :
    Exists fun after : CallbackState => Evaluates callback response.check state after ∧
      evaluateLater callback response state = finishEvaluation callback false after response.outcome :=
  evaluate_spec response.body.run_spec active false response.check

theorem evaluateLater_idle (callback : Nat) (state : CallbackState) :
    evaluateLater callback .notReady state =
      (if (state.object callback).waitingForTarget then state
        else state.record (.checkReady callback false), none) := by
  rw [evaluateLater, evaluate]
  cases (state.object callback).waitingForTarget with
  | true => rfl
  | false => rfl

theorem evaluateLater_idle_pending (callback : Nat) (state : CallbackState) :
    (evaluateLater callback .notReady state).1.pendingList = state.pendingList := by
  rw [evaluateLater_idle]
  cases (state.object callback).waitingForTarget with
  | true => rfl
  | false => rfl

theorem completeWaitForTarget_idle (callback : Nat) (state : CallbackState) :
    completeWaitForTarget callback .notReady state =
      ((state.setObject callback (state.object callback).wake).record (.checkReady callback false),
        none) := by
  rw [completeWaitForTarget, evaluateLater_idle, CallbackState.setObject_self]
  rfl

/-- The calls of an evaluation of an open object are sound. -/
theorem Evaluates.sound {callback : Nat} {check : CheckOutcome} {before after : CallbackState}
    (step : Evaluates callback check before after)
    (unfinished : (before.object callback).completed = false) :
    Registers (fun event => event.sound = true) before after := by
  apply step.registers.mono
  rintro event (self | new)
  · rw [unfinished] at self
    exact (CheckOutcome.calls_fresh (Nat.zero_le _) self).1
  · exact new.1

/-- Completing an open object at the end of a visit. -/
theorem complete_later {callback : Nat} {state : CallbackState}
    (unfinished : (state.object callback).completed = false) :
    state.complete callback false = (state.setObject callback (state.object callback).finish, none) := by
  rw [CallbackState.complete, if_neg (by rw [unfinished]; exact Bool.false_ne_true), Bool.and_false]
  rfl

/-! ## The pending list -/

/-- The loop invariant of `evaluate_all`.  The guard says that every callback on
the waitlist is still waiting. -/
structure PendingPass (guard : Prop) (index : Nat) (responses : List Response)
    (state : CallbackState) : Prop where
  loose : Loose state
  ahead : Marked CallbackObject.connected state (state.pendingList.drop index)
  waitlist : Marked CallbackObject.connected state state.targetWaitlist
  waiting : guard -> Marked CallbackObject.waitingForTarget state state.targetWaitlist
  guarded : guard ∨ forall response, response ∈ responses -> response.outcome ≠ .completes
  clean : Marked CallbackObject.connected state state.pendingList ∨
    forall response, response ∈ responses -> response.outcome ≠ .escapes
  tidy : TidyPass responses

/-- What every pass over the pending list leaves behind. -/
structure PassResult (guard : Prop) (state : CallbackState) : Prop where
  invariant : CallbackInvariant state
  waiting : guard -> Marked CallbackObject.waitingForTarget state state.targetWaitlist

namespace PendingPass

variable {guard : Prop} {index callback : Nat} {response : Response} {rest responses : List Response}
variable {state after : CallbackState}

theorem registers (pass : PendingPass guard index responses state)
    (step : Registers (fun event => event.sound = true) state after) :
    PendingPass guard index responses after where
  loose := step.loose pass.loose fun _ sound => sound
  ahead := step.pendingMarked pass.loose.toListed index pass.ahead
  waitlist := step.waitlistMarked pass.loose 0 pass.waitlist
  waiting := fun holds => step.waitlistWaiting pass.loose (pass.waiting holds)
  guarded := pass.guarded
  clean := by
    rcases pass.clean with connected | harmless
    · exact Or.inl (step.pendingMarked pass.loose.toListed 0 connected)
    · exact Or.inr harmless
  tidy := pass.tidy

/-- The object at the position has nothing more to do. -/
theorem next (pass : PendingPass guard index (response :: rest) state) :
    PendingPass guard (index + 1) rest state where
  loose := pass.loose
  ahead := fun callback member => pass.ahead callback (mem_drop_of_mem_drop_succ member)
  waitlist := pass.waitlist
  waiting := pass.waiting
  guarded := pass.guarded.imp id fun none other member => none other (List.mem_cons_of_mem _ member)
  clean := pass.clean.imp id fun none other member => none other (List.mem_cons_of_mem _ member)
  tidy := (List.pairwise_cons.mp pass.tidy).2

/-- The object at the position is completed. -/
theorem finish (pass : PendingPass guard index (response :: rest) state)
    (found : state.pendingList[index]? = some callback)
    (active : (state.object callback).waitingForTarget = false)
    (completes : response.outcome = .completes) :
    PendingPass guard (index + 1) rest
      (state.setObject callback (state.object callback).finish) := by
  have holds : guard := by
    rcases pass.guarded with holds | none
    · exact holds
    · exact False.elim (none response List.mem_cons_self completes)
  have absent : callback ∉ state.targetWaitlist := by
    intro member
    exact Bool.false_ne_true (active.symm.trans (pass.waiting holds callback member))
  exact {
    loose := pass.loose.finish active
    ahead := pass.next.ahead.setObject_of_notMem (notMem_drop_succ pass.loose.pendingUnique found)
    waitlist := pass.waitlist.setObject_of_notMem absent
    waiting := fun _ => (pass.waiting holds).setObject_of_notMem absent
    guarded := Or.inl holds
    clean := Or.inr fun later member => (List.pairwise_cons.mp pass.tidy).1 later member completes
    tidy := pass.next.tidy }

theorem idle (pass : PendingPass guard index [] state) :
    PendingPass guard index [Response.notReady] state where
  loose := pass.loose
  ahead := pass.ahead
  waitlist := pass.waitlist
  waiting := pass.waiting
  guarded := by
    right
    intro other member
    rw [List.mem_singleton.mp member]
    decide
  clean := by
    right
    intro other member
    rw [List.mem_singleton.mp member]
    decide
  tidy := List.pairwise_singleton _ _

theorem stop (pass : PendingPass guard index responses state) : PendingPass guard index [] state where
  loose := pass.loose
  ahead := pass.ahead
  waitlist := pass.waitlist
  waiting := pass.waiting
  guarded := Or.inr fun _ impossible => by cases impossible
  clean := Or.inr fun _ impossible => by cases impossible
  tidy := List.Pairwise.nil

/-- The object at the position is open. -/
theorem unfinished (pass : PendingPass guard index responses state)
    (found : state.pendingList[index]? = some callback) :
    (state.object callback).completed = false := by
  have below := pass.loose.pendingBelow callback (List.mem_of_getElem? found)
  exact (pass.loose.settled callback below).notBoth
    (pass.ahead callback (mem_drop_of_getElem? found))

/-- One visit of the pending list. -/
theorem visit (pass : PendingPass guard index (response :: rest) state)
    (found : state.pendingList[index]? = some callback) :
    ((evaluateLater callback response state).2 = none ∧
        PendingPass guard (index + 1) rest (evaluateLater callback response state).1) ∨
      ((evaluateLater callback response state).2 ≠ none ∧
        PassResult guard (evaluateLater callback response state).1) := by
  cases active : (state.object callback).waitingForTarget with
  | true =>
      rw [evaluateLater, evaluate_waiting active]
      exact Or.inl ⟨rfl, pass.next⟩
  | false =>
      rcases evaluateLater_spec active response with ⟨after, step, evaluated⟩
      have moved := pass.registers (step.sound (pass.unfinished found))
      have same := step.registers.frame callback
        (pass.loose.pendingBelow callback (List.mem_of_getElem? found))
      rw [evaluated]
      cases outcome : response.outcome with
      | stays => exact Or.inl ⟨rfl, moved.next⟩
      | escapes =>
          right
          have connected : Marked CallbackObject.connected after after.pendingList := by
            rcases moved.clean with connected | none
            · exact connected
            · exact False.elim (none response List.mem_cons_self outcome)
          exact ⟨Option.some_ne_none _, ⟨moved.loose, connected, moved.waitlist⟩, moved.waiting⟩
      | completes =>
          left
          have open_ : (after.object callback).completed = false := by
            rw [same]
            exact pass.unfinished found
          rw [finishEvaluation, complete_later open_]
          refine ⟨rfl, moved.finish ?_ (by rw [same]; exact active) outcome⟩
          rcases step.registers.pending with ⟨added, shape, _⟩
          rw [shape, List.getElem?_append_left (List.getElem?_eq_some_iff.mp found).1]
          exact found

end PendingPass

/-- The pending list keeps its loop invariant through a whole pass. -/
theorem pendingRule (guard : Prop) :
    SweepRule CallbackState.pendingList evaluateLater Response.notReady (PendingPass guard)
      (PassResult guard) :=
  SweepRule.of_visits PendingPass.visit PendingPass.stop PendingPass.idle
    (fun callback state => congrArg Prod.snd (evaluateLater_idle callback state))
    evaluateLater_idle_pending

/-! ## The waitlist -/

/-- The loop invariant of `target_ready`.  A calm pass is one without
exceptions. -/
structure TargetPass (calm : Prop) (index : Nat) (responses : List Response) (state : CallbackState) : Prop where
  loose : Loose state
  reached : index ≤ state.targetWaitlist.length
  ahead : Marked CallbackObject.connected state (state.targetWaitlist.drop index)
  behind : forall callback, callback ∈ state.targetWaitlist.take index ->
    (state.object callback).waitingForTarget = false
  clean : (Marked CallbackObject.connected state state.pendingList ∧
      Marked CallbackObject.connected state state.targetWaitlist) ∨
    forall response, response ∈ responses -> response.outcome ≠ .escapes
  quiet : calm -> forall response, response ∈ responses -> response.outcome ≠ .escapes
  tidy : TidyPass responses

namespace TargetPass

variable {calm : Prop} {index callback : Nat} {response : Response} {rest responses : List Response}
variable {state after : CallbackState}

theorem registers {allowed : CallbackEvent -> Prop} (pass : TargetPass calm index responses state)
    (step : Registers allowed state after) (permitted : forall event, allowed event -> event.sound = true) :
    TargetPass calm index responses after where
  loose := step.loose pass.loose permitted
  reached := by
    rcases step.waitlist with ⟨added, shape, _⟩
    rw [shape, List.length_append]
    exact Nat.le_add_right_of_le pass.reached
  ahead := step.waitlistMarked pass.loose index pass.ahead
  behind := by
    rcases step.waitlist with ⟨added, shape, _⟩
    intro callback member
    rw [shape, List.take_append_of_le_length pass.reached] at member
    rw [step.frame callback (pass.loose.waitlistBelow callback (List.mem_of_mem_take member))]
    exact pass.behind callback member
  clean := by
    rcases pass.clean with ⟨pending, waitlist⟩ | harmless
    · exact Or.inl ⟨step.pendingMarked pass.loose.toListed 0 pending,
        step.waitlistMarked pass.loose 0 waitlist⟩
    · exact Or.inr harmless
  quiet := pass.quiet
  tidy := pass.tidy

/-- The object at the position no longer waits. -/
theorem wake (pass : TargetPass calm index responses state)
    (found : state.targetWaitlist[index]? = some callback) :
    TargetPass calm index responses (state.setObject callback (state.object callback).wake) where
  loose := pass.loose.wake (pass.loose.waitlistBelow callback (List.mem_of_getElem? found))
  reached := pass.reached
  ahead := pass.ahead.setObject_of_flag rfl
  behind := by
    intro other member
    by_cases same : other = callback
    · subst same
      rw [CallbackState.setObject_self]
      rfl
    · rw [CallbackState.setObject_of_ne same]
      exact pass.behind other member
  clean := pass.clean.imp (fun both => ⟨both.1.setObject_of_flag rfl, both.2.setObject_of_flag rfl⟩) id
  quiet := pass.quiet
  tidy := pass.tidy

/-- The object at the position has nothing more to do. -/
theorem next (pass : TargetPass calm index (response :: rest) state)
    (found : state.targetWaitlist[index]? = some callback)
    (active : (state.object callback).waitingForTarget = false) :
    TargetPass calm (index + 1) rest state where
  loose := pass.loose
  reached := (List.getElem?_eq_some_iff.mp found).1
  ahead := fun callback member => pass.ahead callback (mem_drop_of_mem_drop_succ member)
  behind := by
    intro other member
    rw [List.take_add_one, found] at member
    rcases List.mem_append.mp member with early | last
    · exact pass.behind other early
    · rw [List.mem_singleton.mp last]
      exact active
  clean := pass.clean.imp id fun none other member => none other (List.mem_cons_of_mem _ member)
  quiet := fun holds other member => pass.quiet holds other (List.mem_cons_of_mem _ member)
  tidy := (List.pairwise_cons.mp pass.tidy).2

/-- The object at the position is completed. -/
theorem finish (pass : TargetPass calm index (response :: rest) state)
    (found : state.targetWaitlist[index]? = some callback)
    (active : (state.object callback).waitingForTarget = false)
    (completes : response.outcome = .completes) :
    TargetPass calm (index + 1) rest (state.setObject callback (state.object callback).finish) where
  loose := pass.loose.finish active
  reached := (pass.next found active).reached
  ahead := (pass.next found active).ahead.setObject_of_notMem
    (notMem_drop_succ pass.loose.waitlistUnique found)
  behind := by
    intro other member
    by_cases same : other = callback
    · subst same
      rw [CallbackState.setObject_self]
      exact active
    · rw [CallbackState.setObject_of_ne same]
      exact (pass.next found active).behind other member
  clean := Or.inr fun later member => (List.pairwise_cons.mp pass.tidy).1 later member completes
  quiet := (pass.next found active).quiet
  tidy := (pass.next found active).tidy

theorem idle (pass : TargetPass calm index [] state) : TargetPass calm index [Response.notReady] state where
  loose := pass.loose
  reached := pass.reached
  ahead := pass.ahead
  behind := pass.behind
  clean := by
    right
    intro other member
    rw [List.mem_singleton.mp member]
    decide
  quiet := by
    intro _ other member
    rw [List.mem_singleton.mp member]
    decide
  tidy := List.pairwise_singleton _ _

theorem stop (pass : TargetPass calm index responses state) : TargetPass calm index [] state where
  loose := pass.loose
  reached := pass.reached
  ahead := pass.ahead
  behind := pass.behind
  clean := Or.inr fun _ impossible => by cases impossible
  quiet := fun _ _ impossible => by cases impossible
  tidy := List.Pairwise.nil

/-- The object at the position is open. -/
theorem unfinished (pass : TargetPass calm index responses state)
    (found : state.targetWaitlist[index]? = some callback) :
    (state.object callback).completed = false := by
  have below := pass.loose.waitlistBelow callback (List.mem_of_getElem? found)
  exact (pass.loose.settled callback below).notBoth
    (pass.ahead callback (mem_drop_of_getElem? found))

/-- One visit of the waitlist. -/
theorem visit (pass : TargetPass calm index (response :: rest) state)
    (found : state.targetWaitlist[index]? = some callback) :
    ((completeWaitForTarget callback response state).2 = none ∧
        TargetPass calm (index + 1) rest (completeWaitForTarget callback response state).1) ∨
      ((completeWaitForTarget callback response state).2 ≠ none ∧
        CallbackInvariant (completeWaitForTarget callback response state).1 ∧ ¬ calm) := by
  let woken := state.setObject callback (state.object callback).wake
  have awake : TargetPass calm index (response :: rest) woken := pass.wake found
  have active : (woken.object callback).waitingForTarget = false := by
    rw [CallbackState.setObject_self]
    rfl
  rcases evaluateLater_spec active response with ⟨after, step, evaluated⟩
  have open_ := awake.unfinished found
  have moved := awake.registers (step.sound open_) fun _ sound => sound
  rw [← step.registers.frame callback (awake.loose.waitlistBelow callback (List.mem_of_getElem? found))]
    at active open_
  have foundAfter : after.targetWaitlist[index]? = some callback := by
    rcases step.registers.waitlist with ⟨added, shape, _⟩
    change woken.targetWaitlist[index]? = some callback at found
    rw [shape, List.getElem?_append_left (List.getElem?_eq_some_iff.mp found).1]
    exact found
  rw [completeWaitForTarget, evaluated]
  cases outcome : response.outcome with
  | stays => exact Or.inl ⟨rfl, moved.next foundAfter active⟩
  | escapes =>
      right
      have excited : ¬ calm := fun holds => moved.quiet holds response List.mem_cons_self outcome
      rcases moved.clean with ⟨pending, waitlist⟩ | none
      · exact ⟨Option.some_ne_none _, ⟨moved.loose, pending, waitlist⟩, excited⟩
      · exact False.elim (none response List.mem_cons_self outcome)
  | completes =>
      left
      rw [finishEvaluation, complete_later open_]
      exact ⟨rfl, moved.finish foundAfter active outcome⟩

end TargetPass

/-- The waitlist keeps its loop invariant through a whole pass. -/
theorem targetRule (calm : Prop) :
    SweepRule CallbackState.targetWaitlist completeWaitForTarget Response.notReady (TargetPass calm)
      (fun state => CallbackInvariant state ∧ ¬ calm) :=
  SweepRule.of_visits TargetPass.visit TargetPass.stop TargetPass.idle
    (fun callback state => congrArg Prod.snd (completeWaitForTarget_idle callback state))
    (fun callback state =>
      congrArg (fun visited => visited.1.targetWaitlist) (completeWaitForTarget_idle callback state))

/-! ## Whole passes -/

/-- `evaluate_all`, also when it is left by an exception. -/
theorem evaluateAll_result {guard : Prop} {state : CallbackState} {responses : List Response}
    (before : PassResult guard state) (tidy : TidyPass responses)
    (guarded : guard ∨ forall response, response ∈ responses -> response.outcome ≠ .completes) :
    PassResult guard (evaluateAll responses state).1 := by
  rw [evaluateAll]
  cases state.paused with
  | true => exact before
  | false =>
      have start : PendingPass guard 0 responses state := {
        loose := before.invariant.toLoose
        ahead := before.invariant.pendingConnected
        waitlist := before.invariant.waitlistConnected
        waiting := before.waiting
        guarded := guarded
        clean := Or.inl before.invariant.pendingConnected
        tidy := tidy }
      rcases swept : sweep CallbackState.pendingList evaluateLater .notReady responses 0 state with
        ⟨after, escape⟩
      rcases (pendingRule guard).sweep_spec responses 0 state start with
        ⟨finished, last, pass, _⟩ | ⟨escape', raised, result⟩
      · rw [swept] at finished pass
        subst finished
        exact ⟨pass.loose.updatePending pass.waitlist, pass.waiting⟩
      · rw [swept] at raised result
        subst raised
        exact result

/-- `target_ready`, also when it is left by an exception.  Without an exception
it leaves nobody on the waitlist. -/
theorem targetReady_result {state : CallbackState} {responses : List Response}
    (before : CallbackInvariant state) (tidy : TidyPass responses) :
    CallbackInvariant (targetReady responses state).1 ∧
      ((forall response, response ∈ responses -> response.outcome ≠ .escapes) ->
        (targetReady responses state).1.targetWaitlist = []) := by
  rw [targetReady]
  have start : TargetPass (forall response, response ∈ responses -> response.outcome ≠ .escapes) 0
      responses state := {
    loose := before.toLoose
    reached := Nat.zero_le _
    ahead := before.waitlistConnected
    behind := fun _ impossible => by cases impossible
    clean := Or.inl ⟨before.pendingConnected, before.waitlistConnected⟩
    quiet := id
    tidy := tidy }
  rcases swept : sweep CallbackState.targetWaitlist completeWaitForTarget .notReady responses 0 state with
    ⟨after, escape⟩
  rcases (targetRule _).sweep_spec responses 0 state start with
    ⟨finished, last, pass, passed⟩ | ⟨escape', raised, result, excited⟩
  · rw [swept] at finished pass passed
    subst finished
    have nobody : forall callback, callback ∈ after.targetWaitlist ->
        (after.object callback).waitingForTarget = false := by
      intro callback member
      apply pass.behind
      rw [List.take_of_length_le passed]
      exact member
    refine ⟨(pass.loose.clearWaitlist nobody).updatePending ?_, fun _ => rfl⟩
    intro callback impossible
    cases impossible
  · rw [swept] at raised result
    subst raised
    exact ⟨result, fun calm => False.elim (excited calm)⟩

end Infra
end CrashPython

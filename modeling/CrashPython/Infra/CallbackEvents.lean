import CrashPython.Infra.CallbackRuns
import Mathlib.Data.List.Count

namespace CrashPython
namespace Infra

open Library

/-!
# How often one event evaluates a callback

`__init__` connects the handler unless the flag of the class is set, but sets
the flag on the instance.  Every object therefore connects the handler once
more, and an event makes one pass over the pending list for each object ever
created.

The results here hold after every run, whatever was raised in it.  They rest on
`Listed` alone.
-/

/-! ## What every visit does -/

/-- The two calls an evaluation makes. -/
inductive CallKind where
  | check
  | call
deriving DecidableEq, Repr

/-- The event is a call of this kind on this object. -/
def CallbackEvent.isOf : CallKind -> Nat -> CallbackEvent -> Bool
  | .check, callback, .checkReady other _ => other == callback
  | .call, callback, .called other _ => other == callback
  | _, _, _ => false

theorem CallbackEvent.callback_of_isOf {kind : CallKind} {callback : Nat} {event : CallbackEvent}
    (selected : event.isOf kind callback = true) : event.callback = callback := by
  cases kind <;> cases event <;> simp_all [CallbackEvent.isOf, CallbackEvent.callback]

/-- How often an object was called. -/
def CallbackState.count (kind : CallKind) (callback : Nat) (state : CallbackState) : Nat :=
  state.trace.countP (CallbackEvent.isOf kind callback)

/-- The effect of one visit, in any state whatsoever. -/
structure Visited (callback : Nat) (before after : CallbackState) : Prop where
  grows : before.created ≤ after.created
  listed : Listed before -> Listed after
  paused : after.paused = before.paused
  pending : Exists fun added : List Nat => after.pendingList = before.pendingList ++ added ∧
    forall other, other ∈ added -> before.created ≤ other
  extended : before.trace <+: after.trace
  counted : forall kind other, other < before.created ->
    after.count kind other ≤ before.count kind other + if other = callback then 1 else 0

theorem Visited.refl (callback : Nat) (state : CallbackState) : Visited callback state state where
  grows := Nat.le_refl _
  listed := id
  paused := rfl
  pending := ⟨[], (List.append_nil _).symm, fun _ impossible => by cases impossible⟩
  extended := List.prefix_rfl
  counted := fun _ _ _ => Nat.le_add_right _ _

theorem CheckOutcome.calls_count (callback : Nat) (completed : Bool) (check : CheckOutcome)
    (kind : CallKind) (other : Nat) :
    (check.calls callback completed).countP (CallbackEvent.isOf kind other) ≤
      if other = callback then 1 else 0 := by
  rw [CheckOutcome.calls]
  by_cases same : other = callback
  · subst same
    cases check.ready <;> cases kind <;> simp [CallbackEvent.isOf]
  · have different : ¬ callback = other := fun equal => same equal.symm
    cases check.ready <;> cases kind <;> simp [CallbackEvent.isOf, same, different]

theorem Evaluates.visited {callback : Nat} {check : CheckOutcome} {before after : CallbackState}
    (step : Evaluates callback check before after) : Visited callback before after where
  grows := step.registers.grows
  listed := step.registers.listed
  paused := step.registers.paused
  pending := by
    rcases step.registers.pending with ⟨added, shape, _, members⟩
    exact ⟨added, shape, fun other member => ((members other).mp member).1⟩
  extended := by
    rcases step.trace with ⟨added, shape, _⟩
    exact ⟨_, shape.symm⟩
  counted := by
    intro kind other old
    rcases step.trace with ⟨added, shape, fresh⟩
    have none : added.countP (CallbackEvent.isOf kind other) = 0 := by
      rw [List.countP_eq_zero]
      intro event member selected
      have new := (fresh event member).2
      rw [CallbackEvent.callback_of_isOf selected] at new
      exact Nat.not_lt_of_ge new old
    have calls := check.calls_count callback (before.object callback).completed kind other
    rw [CallbackState.count, CallbackState.count, shape, List.countP_append, List.countP_append, none]
    exact Nat.add_le_add_left calls _

theorem Visited.finish {callback : Nat} {before after : CallbackState}
    (step : Visited callback before after) (outcome : Outcome) :
    Visited callback before (finishEvaluation callback false after outcome).1 := by
  cases outcome with
  | stays => exact step
  | escapes => exact step
  | completes =>
      cases finished : (after.object callback).completed with
      | true =>
          rw [finishEvaluation, CallbackState.complete, if_pos finished]
          exact {
            grows := step.grows
            listed := fun holds => ⟨(step.listed holds).pendingUnique, (step.listed holds).pendingBelow,
              (step.listed holds).flag, (step.listed holds).handlers⟩
            paused := step.paused
            pending := step.pending
            extended := step.extended.trans (List.prefix_append _ _)
            counted := by
              intro kind other old
              have counted := step.counted kind other old
              cases kind <;>
                simpa [CallbackState.count, CallbackState.record, List.countP_append, CallbackEvent.isOf]
                  using counted }
      | false =>
          rw [finishEvaluation, complete_later finished]
          exact {
            grows := step.grows
            listed := fun holds => (step.listed holds).setObject
            paused := step.paused
            pending := step.pending
            extended := step.extended
            counted := step.counted }

theorem evaluateLater_visited (callback : Nat) (response : Response) (state : CallbackState) :
    Visited callback state (evaluateLater callback response state).1 := by
  cases active : (state.object callback).waitingForTarget with
  | true =>
      rw [evaluateLater, evaluate_waiting active]
      exact Visited.refl callback state
  | false =>
      rcases evaluateLater_spec active response with ⟨after, step, evaluated⟩
      rw [evaluated]
      exact step.visited.finish _

/-! ## What every pass does -/

/-- The effect of a pass on the count of one object.  At a position, the object
is still ahead or has had its visit. -/
structure Counting (kind : CallKind) (callback bound : Nat) (index : Nat) (responses : List Response)
    (state : CallbackState) : Prop where
  listed : Listed state
  below : callback < state.created
  counted : state.count kind callback + (if callback ∈ state.pendingList.drop index then 1 else 0) ≤ bound

theorem Visited.counting {kind : CallKind} {callback bound index : Nat}
    {responses rest : List Response} {item : Nat} {state after : CallbackState}
    (pass : Counting kind callback bound index responses state)
    (found : state.pendingList[index]? = some item) (step : Visited item state after) :
    Counting kind callback bound (index + 1) rest after where
  listed := step.listed pass.listed
  below := Nat.lt_of_lt_of_le pass.below step.grows
  counted := by
    rcases step.pending with ⟨added, shape, fresh⟩
    have behind : callback ∈ after.pendingList.drop (index + 1) ->
        callback ∈ state.pendingList.drop (index + 1) := by
      intro member
      rw [shape, List.drop_append] at member
      rcases List.mem_append.mp member with old | new
      · exact old
      · have new := fresh callback (List.mem_of_mem_drop new)
        exact False.elim (Nat.not_lt_of_ge new pass.below)
    have counted := step.counted kind callback pass.below
    have before := pass.counted
    by_cases same : callback = item
    · subst same
      have gone : callback ∉ after.pendingList.drop (index + 1) := fun member =>
        notMem_drop_succ pass.listed.pendingUnique found (behind member)
      rw [if_pos (mem_drop_of_getElem? found)] at before
      rw [if_pos rfl] at counted
      rw [if_neg gone]
      exact Nat.le_trans counted before
    · rw [if_neg same] at counted
      by_cases ahead : callback ∈ after.pendingList.drop (index + 1)
      · rw [if_pos (mem_drop_of_mem_drop_succ (behind ahead))] at before
        rw [if_pos ahead]
        exact Nat.le_trans (Nat.add_le_add_right counted 1) before
      · rw [if_neg ahead]
        exact Nat.le_trans counted (Nat.le_trans (Nat.le_add_right _ _) before)

theorem countingRule (kind : CallKind) (callback bound : Nat) :
    SweepRule CallbackState.pendingList evaluateLater Response.notReady (Counting kind callback bound)
      (fun state => state.count kind callback ≤ bound) where
  visited := by
    intro index response rest item state next pass found visited
    have step := evaluateLater_visited item response state
    rw [visited] at step
    exact step.counting pass found
  escaped := by
    intro index response rest item state next escape pass found visited
    have step := evaluateLater_visited item response state
    rw [visited] at step
    have onward : Counting kind callback bound (index + 1) rest next := step.counting pass found
    exact Nat.le_trans (Nat.le_add_right _ _) onward.counted
  exhausted := fun index response rest state pass _ => ⟨pass.listed, pass.below, pass.counted⟩
  idleVisited := fun index item state pass found =>
    (evaluateLater_visited item .notReady state).counting pass found
  idleItems := evaluateLater_idle_pending

/-- One pass checks and calls each object at most once. -/
theorem evaluateAll_count_le {state : CallbackState} (listed : Listed state) {callback : Nat}
    (below : callback < state.created) (kind : CallKind) (responses : List Response) :
    (evaluateAll responses state).1.count kind callback ≤ state.count kind callback + 1 := by
  rw [evaluateAll]
  cases state.paused with
  | true => exact Nat.le_add_right _ _
  | false =>
      have start : Counting kind callback (state.count kind callback + 1) 0 responses state := by
        refine ⟨listed, below, Nat.add_le_add_left ?_ _⟩
        split
        · exact Nat.le_refl 1
        · exact Nat.zero_le 1
      rcases swept : sweep CallbackState.pendingList evaluateLater .notReady responses 0 state with
        ⟨after, escape⟩
      rcases (countingRule kind callback _).sweep_spec responses 0 state start with
        ⟨finished, last, pass, _⟩ | ⟨escape', raised, result⟩
      · rw [swept] at finished pass
        subst finished
        exact Nat.le_trans (Nat.le_add_right _ _) pass.counted
      · rw [swept] at raised result
        subst raised
        exact result

section Preserved

variable (holds : CallbackState -> Prop)

/-- What visits and the clean-up preserve is preserved by a pass. -/
theorem evaluateAll_preserves
    (visits : forall callback response state, callback ∈ state.pendingList -> holds state ->
      holds (evaluateLater callback response state).1)
    (cleans : forall state, holds state -> holds state.updatePending)
    (responses : List Response) {state : CallbackState} (before : holds state) :
    holds (evaluateAll responses state).1 := by
  rw [evaluateAll]
  cases state.paused with
  | true => exact before
  | false =>
      have swept : holds (sweep CallbackState.pendingList evaluateLater .notReady responses 0 state).1 :=
        sweep_invariant holds visits responses 0 state before
      rcases result : sweep CallbackState.pendingList evaluateLater .notReady responses 0 state with
        ⟨after, escape⟩
      rw [result] at swept
      cases escape with
      | none => exact cleans after swept
      | some escape => exact swept

/-- What a pass preserves is preserved by any number of them. -/
theorem evaluateAll_repeated
    (passes : forall responses state, holds state -> holds (evaluateAll responses state).1)
    (calls : List (List Response)) (handlers : List Nat) {state : CallbackState} (before : holds state) :
    holds (handlers.foldl (fun state call => (evaluateAll (calls[call]?.getD []) state).1) state) := by
  induction handlers generalizing state with
  | nil => exact before
  | cons handler rest inductionHypothesis => exact inductionHypothesis (passes _ _ before)

end Preserved

theorem evaluateAll_extends (responses : List Response) (state : CallbackState) :
    state.trace <+: (evaluateAll responses state).1.trace := by
  apply evaluateAll_preserves (fun after => state.trace <+: after.trace)
  · intro callback response after _ extended
    exact extended.trans (evaluateLater_visited callback response after).extended
  · exact fun _ extended => extended
  · exact List.prefix_rfl

theorem evaluateAll_listed (responses : List Response) {state : CallbackState} (listed : Listed state) :
    Listed (evaluateAll responses state).1 := by
  apply evaluateAll_preserves Listed ?_ (fun _ holds => holds.updatePending) responses listed
  intro callback response after _ holds
  exact (evaluateLater_visited callback response after).listed holds

theorem targetReady_listed (responses : List Response) {state : CallbackState} (listed : Listed state) :
    Listed (targetReady responses state).1 := by
  have swept : Listed
      (sweep CallbackState.targetWaitlist completeWaitForTarget .notReady responses 0 state).1 := by
    apply sweep_invariant Listed ?_ responses 0 state listed
    intro callback response after _ holds
    exact (evaluateLater_visited callback response _).listed holds.setObject
  rw [targetReady]
  rcases result : sweep CallbackState.targetWaitlist completeWaitForTarget .notReady responses 0 state with
    ⟨after, escape⟩
  rw [result] at swept
  cases escape with
  | none =>
      exact Listed.updatePending ⟨swept.pendingUnique, swept.pendingBelow, swept.flag, swept.handlers⟩
  | some escape => exact swept

/-- The lists are in order after every run, whatever was raised in it. -/
theorem runOperations_listed (operations : List Operation) : Listed (runOperations operations) := by
  rw [runOperations]
  have start : Listed CallbackState.initial := CallbackInvariant.initial.toListed
  generalize CallbackState.initial = state at start
  induction operations generalizing state with
  | nil => exact start
  | cons operation rest inductionHypothesis =>
      rw [List.foldl_cons]
      apply inductionHypothesis
      cases operation with
      | register registration response =>
          rcases register_spec response.body.run_spec registration response.check state with
            ⟨after, step, connected, registered⟩
          rw [Operation.run, registered]
          exact step.listed start
      | newObjfile calls => exact evaluateAll_repeated Listed (fun responses _ => evaluateAll_listed responses) calls _ start
      | pause => exact ⟨start.pendingUnique, start.pendingBelow, start.flag, start.handlers⟩
      | unpause responses =>
          exact evaluateAll_listed responses
            ⟨start.pendingUnique, start.pendingBelow, start.flag, start.handlers⟩
      | targetReady responses => exact targetReady_listed responses start

/-! ## One event -/

/-- One event evaluates each pending callback at most once.  A callback that is
ready and answers `False` is called exactly once, unless an exception cuts the
event short. -/
def EvaluatesOnce (state : CallbackState) : Prop :=
  forall calls : List (List Response), forall callback, callback ∈ state.pendingList ->
    (newObjfile calls state).count .check callback ≤ state.count .check callback + 1 ∧
      forall (index : Nat) (response : Response), state.pendingList[index]? = some callback ->
        (state.object callback).waitingForTarget = false ->
        (calls[0]?.getD [])[index]? = some response ->
        response.check.ready = true -> response.body.result = .returned .false ->
        (forall responses, responses ∈ calls ->
          forall other, other ∈ responses -> other.outcome ≠ .escapes) ->
        (newObjfile calls state).count .call callback = state.count .call callback + 1

theorem CallbackState.count_le_of_prefix {kind : CallKind} {callback : Nat} {before after : CallbackState}
    (extended : before.trace <+: after.trace) : before.count kind callback ≤ after.count kind callback :=
  extended.sublist.countP_le

/-- Everything pending waits, and nothing was called since. -/
def Asleep (events : List CallbackEvent) (state : CallbackState) : Prop :=
  state.trace = events ∧ Marked CallbackObject.waitingForTarget state state.pendingList

theorem evaluateAll_asleep {events : List CallbackEvent} (responses : List Response)
    {state : CallbackState} (asleep : Asleep events state) :
    Asleep events (evaluateAll responses state).1 := by
  apply evaluateAll_preserves (Asleep events) ?_ ?_ responses asleep
  · intro callback response after member holds
    rw [evaluateLater, evaluate_waiting (holds.2 callback member)]
    exact holds
  · intro after holds
    exact ⟨holds.1, fun callback member => holds.2 callback (List.mem_of_mem_filter member)⟩

/-- While everything pending waits, an event evaluates nothing. -/
theorem newObjfile_waiting (calls : List (List Response)) {state : CallbackState}
    (waiting : Marked CallbackObject.waitingForTarget state state.pendingList) :
    (newObjfile calls state).trace = state.trace :=
  (evaluateAll_repeated (Asleep state.trace) (fun responses _ => evaluateAll_asleep responses) calls
    (List.range state.handlers) ⟨rfl, waiting⟩).1

/-- Responses that reach a position and raise there. -/
def raiseAt (index : Nat) : List Response :=
  List.replicate index .notReady ++ [⟨.raised .other, .returned .none⟩]

/-- A state that differs in its trace only. -/
structure SameButTrace (before after : CallbackState) : Prop where
  object : after.object = before.object
  pending : after.pendingList = before.pendingList
  paused : after.paused = before.paused

theorem sweep_raiseAt {callback : Nat} (position index : Nat) {state : CallbackState}
    (found : state.pendingList[index + position]? = some callback)
    (active : (state.object callback).waitingForTarget = false) :
    Exists fun after : CallbackState =>
      sweep CallbackState.pendingList evaluateLater .notReady (raiseAt position) index state =
        (after, some .other) ∧ SameButTrace state after ∧
          state.count .check callback + 1 ≤ after.count .check callback := by
  induction position generalizing index state with
  | zero =>
      refine ⟨state.record (.checkReady callback false), ?_, ⟨rfl, rfl, rfl⟩, ?_⟩
      · rw [Nat.add_zero] at found
        simp only [raiseAt, List.replicate_zero, List.nil_append, sweep, found, evaluateLater, evaluate,
          active, Bool.false_eq_true, if_false]
      · simp [CallbackState.count, CallbackState.record, List.countP_append, CallbackEvent.isOf]
  | succ position inductionHypothesis =>
      have inside : index < state.pendingList.length := by
        have bound := (List.getElem?_eq_some_iff.mp found).1
        omega
      have here := List.getElem?_eq_getElem inside
      have later : state.pendingList[index + 1 + position]? = some callback := by
        rw [← found]
        congr 1
        omega
      have visit := evaluateLater_idle state.pendingList[index] state
      have unrolled : sweep CallbackState.pendingList evaluateLater .notReady (raiseAt (position + 1)) index
          state = sweep CallbackState.pendingList evaluateLater .notReady (raiseAt position) (index + 1)
            (evaluateLater state.pendingList[index] .notReady state).1 := by
        simp only [raiseAt, List.replicate_succ, List.cons_append, sweep, here, visit]
      rw [unrolled, visit]
      cases (state.object state.pendingList[index]).waitingForTarget with
      | true => exact inductionHypothesis (index + 1) later active
      | false =>
          let checked := state.record (.checkReady state.pendingList[index] false)
          change checked.pendingList[index + 1 + position]? = some callback at later
          change (checked.object callback).waitingForTarget = false at active
          rcases inductionHypothesis (index + 1) later active with ⟨after, swept, same, counted⟩
          refine ⟨after, swept, ⟨same.object, same.pending, same.paused⟩, Nat.le_trans ?_ counted⟩
          exact Nat.add_le_add_right (CallbackState.count_le_of_prefix (List.prefix_append _ _)) 1

/-- A pass that checks a given callback and raises right there. -/
theorem evaluateAll_raiseAt {callback index : Nat} {state : CallbackState}
    (found : state.pendingList[index]? = some callback)
    (active : (state.object callback).waitingForTarget = false) (running : state.paused = false) :
    SameButTrace state (evaluateAll (raiseAt index) state).1 ∧
      state.count .check callback + 1 ≤ (evaluateAll (raiseAt index) state).1.count .check callback := by
  rw [← Nat.zero_add index] at found
  rcases sweep_raiseAt index 0 found active with ⟨after, swept, same, counted⟩
  rw [evaluateAll, if_neg (by rw [running]; exact Bool.false_ne_true), swept]
  exact ⟨same, counted⟩

/-- With two handlers, a pending callback that does not wait can be checked
twice. -/
theorem newObjfile_checks_twice {callback : Nat} {state : CallbackState}
    (member : callback ∈ state.pendingList)
    (active : (state.object callback).waitingForTarget = false) (running : state.paused = false)
    (several : 2 ≤ state.handlers) :
    Exists fun calls : List (List Response) =>
      state.count .check callback + 2 ≤ (newObjfile calls state).count .check callback := by
  rcases List.getElem?_of_mem member with ⟨index, found⟩
  rcases Nat.exists_eq_add_of_le' several with ⟨others, handlers⟩
  refine ⟨[raiseAt index, raiseAt index], ?_⟩
  rw [newObjfile, handlers, List.range_succ_eq_map, List.range_succ_eq_map]
  simp only [List.map_cons, List.foldl_cons]
  let first := (evaluateAll (raiseAt index) state).1
  let second := (evaluateAll (raiseAt index) first).1
  rcases evaluateAll_raiseAt found active running with ⟨same, one⟩
  change SameButTrace state first at same
  rw [← same.pending] at found
  rw [← same.object] at active
  rw [← same.paused] at running
  have two := (evaluateAll_raiseAt found active running).2
  have rest := evaluateAll_repeated (fun after => second.trace <+: after.trace)
    (fun responses after extended => extended.trans (evaluateAll_extends responses after))
    [raiseAt index, raiseAt index] (List.map Nat.succ (List.map Nat.succ (List.range others)))
    List.prefix_rfl
  have total : second.count .check callback ≤ _ := CallbackState.count_le_of_prefix rest
  exact Nat.le_trans (Nat.le_trans (Nat.add_le_add_right one 1) two) total

/-- With a single object, an event is a single pass. -/
theorem newObjfile_single (calls : List (List Response)) {state : CallbackState}
    (single : state.handlers = 1) :
    newObjfile calls state = (evaluateAll (calls[0]?.getD []) state).1 := by
  rw [newObjfile, single]
  rfl

/-- A pass calls the first callback when it is ready. -/
theorem evaluateAll_calls_first {callback : Nat} {state : CallbackState} {response : Response}
    {rest : List Response} (found : state.pendingList[0]? = some callback)
    (active : (state.object callback).waitingForTarget = false) (running : state.paused = false)
    (ready : response.check.ready = true) (stays : response.outcome = .stays) :
    state.count .call callback + 1 ≤ (evaluateAll (response :: rest) state).1.count .call callback := by
  rcases evaluateLater_spec active response with ⟨after, step, evaluated⟩
  rw [stays] at evaluated
  have called : state.count .call callback + 1 ≤ after.count .call callback := by
    rcases step.trace with ⟨added, shape, _⟩
    rw [CallbackState.count, CallbackState.count, shape, CheckOutcome.calls, if_pos ready]
    simp [List.countP_append, CallbackEvent.isOf]
  have swept : sweep CallbackState.pendingList evaluateLater .notReady (response :: rest) 0 state =
      sweep CallbackState.pendingList evaluateLater .notReady rest 1 after := by
    simp only [sweep, found, evaluated, finishEvaluation]
  have extended : after.trace <+:
      (sweep CallbackState.pendingList evaluateLater .notReady rest 1 after).1.trace := by
    apply sweep_invariant (fun later => after.trace <+: later.trace) ?_ rest 1 after List.prefix_rfl
    intro other response later _ extended
    exact extended.trans (evaluateLater_visited other response later).extended
  rw [evaluateAll, if_neg (by rw [running]; exact Bool.false_ne_true), swept]
  rcases result : sweep CallbackState.pendingList evaluateLater .notReady rest 1 after with ⟨last, escape⟩
  rw [result] at extended
  cases escape with
  | none => exact Nat.le_trans called (CallbackState.count_le_of_prefix extended)
  | some escape => exact Nat.le_trans called (CallbackState.count_le_of_prefix extended)

theorem Response.stays_of_false {response : Response} (ready : response.check.ready = true)
    (result : response.body.result = .returned .false) : response.outcome = .stays := by
  rw [Response.outcome, result]
  cases check : response.check with
  | raised error =>
      rw [check] at ready
      cases ready
  | returned answer =>
      rw [check, CheckOutcome.ready, Bool.not_eq_true'] at ready
      rw [CheckOutcome.outcome, ready]
      rfl

theorem evaluatesOnce_of_single {state : CallbackState} (listed : Listed state)
    (running : state.paused = false) (few : state.created ≤ 1) : EvaluatesOnce state := by
  intro calls callback member
  have below := listed.pendingBelow callback member
  have single : state.handlers = 1 := by
    rw [listed.handlers]
    omega
  rw [newObjfile_single calls single]
  refine ⟨evaluateAll_count_le listed below .check _, ?_⟩
  intro index response found active given ready result _
  apply Nat.le_antisymm (evaluateAll_count_le listed below .call _)
  have first : index = 0 := by
    have inside := (List.getElem?_eq_some_iff.mp found).1
    have short : state.pendingList.length ≤ 1 := by
      have subset : state.pendingList ⊆ List.range state.created := fun other member =>
        List.mem_range.mpr (listed.pendingBelow other member)
      have bound := listed.pendingUnique.length_le_of_subset subset
      rw [List.length_range] at bound
      exact Nat.le_trans bound few
    omega
  subst first
  cases responses : calls[0]?.getD [] with
  | nil =>
      rw [responses] at given
      cases given
  | cons head rest =>
      rw [responses] at given
      cases given
      exact evaluateAll_calls_first found active running ready (Response.stays_of_false ready result)

/-- After every run, an event evaluates each pending callback at most once if
and only if there is at most one object, or everything pending still waits for
the target. -/
theorem evaluatesOnce_iff (operations : List Operation)
    (running : (runOperations operations).paused = false) :
    EvaluatesOnce (runOperations operations) <->
      (runOperations operations).created ≤ 1 ∨
        forall callback, callback ∈ (runOperations operations).pendingList ->
          ((runOperations operations).object callback).waitingForTarget = true := by
  have listed := runOperations_listed operations
  generalize runOperations operations = state at running listed
  constructor
  · intro once
    rcases Nat.lt_or_ge 1 state.created with several | few
    · right
      intro callback member
      cases active : (state.object callback).waitingForTarget with
      | true => rfl
      | false =>
          have handlers : 2 ≤ state.handlers := by
            rw [listed.handlers]
            exact several
          rcases newObjfile_checks_twice member active running handlers with ⟨calls, twice⟩
          have limit := (once calls callback member).1
          exact False.elim (Nat.not_succ_le_self _ (Nat.le_trans twice limit))
    · exact Or.inl few
  · rintro (few | waiting)
    · exact evaluatesOnce_of_single listed running few
    · intro calls callback member
      have same := newObjfile_waiting calls waiting
      constructor
      · rw [CallbackState.count, same]
        exact Nat.le_add_right _ _
      · intro index response found active
        rw [waiting callback member] at active
        cases active

/-- A single callback that is connected and does not wait. -/
theorem evaluatesOnce_iff_single :
    EvaluatesOnce
      (runOperations [.register { waitForTarget := false, objfiles := false } .notReady]) :=
  (evaluatesOnce_iff [.register { waitForTarget := false, objfiles := false } .notReady] (by decide)).mpr
    (Or.inl (by decide))

/-- Two callbacks, the first of which is always ready and answers `False`: one
event checks and calls it twice. -/
theorem newObjfile_calls_twice :
    let state := runOperations
      [ .register { waitForTarget := false, objfiles := false } .notReady,
        .register { waitForTarget := false, objfiles := false } .notReady ]
    let ready : Response := ⟨.returned .object, .returned .false⟩
    state.paused = false ∧ state.pendingList = [0, 1] ∧
      state.count .check 0 = 0 ∧ (newObjfile [[ready], [ready]] state).count .check 0 = 2 ∧
      state.count .call 0 = 0 ∧ (newObjfile [[ready], [ready]] state).count .call 0 = 2 ∧
      ¬ EvaluatesOnce state := by
  refine ⟨by decide, by decide, by decide, by decide, by decide, by decide, ?_⟩
  intro once
  have limit := (once [[⟨.returned .object, .returned .false⟩], [⟨.returned .object, .returned .false⟩]] 0
    (by decide)).1
  revert limit
  decide

end Infra
end CrashPython

import CrashPython.Infra.CallbackPasses

namespace CrashPython
namespace Infra

open Library

/-!
# Runs of the callback infrastructure

A run is any sequence of registrations, objfile events, pauses and
announcements of the target.  As long as callbacks raise nothing but
`gdb.error`, every run keeps `CallbackInvariant`.

An exception that leaves a pass skips the clean-up at its end.  `Operation.Tidy`
is the condition under which this does no harm: nothing was completed earlier in
the abandoned pass, and no callback that an abandoned `target_ready` left on the
waitlist is completed by another pass.  Tidy runs keep the invariant, whatever
they raise.
-/

/-! ## Callbacks that raise nothing but `gdb.error` -/

def CheckOutcome.benign : CheckOutcome -> Bool
  | .raised .other => false
  | _ => true

/-- No other exception is raised, neither here nor by a nested registration. -/
def Script.benign : Script -> Bool
  | .returned _ => true
  | .raised .gdbError => true
  | .raised .other => false
  | .register _ check body rest => check.benign && body.benign && rest.benign

def Response.benign (response : Response) : Bool :=
  response.check.benign && response.body.benign

def Operation.benign : Operation -> Bool
  | .register _ response => response.benign
  | .newObjfile calls => calls.all fun responses => responses.all Response.benign
  | .pause => true
  | .unpause responses => responses.all Response.benign
  | .targetReady responses => responses.all Response.benign

theorem CheckOutcome.outcome_of_benign {check : CheckOutcome} (benign : check.benign = true)
    {body : BodyResult} (harmless : body.outcome ≠ .escapes) : check.outcome body ≠ .escapes := by
  cases check with
  | raised error =>
      cases error with
      | gdbError => exact fun impossible => by cases impossible
      | other => cases benign
  | returned answer =>
      rw [CheckOutcome.outcome]
      cases answer.notReady with
      | true => exact fun impossible => by cases impossible
      | false => exact harmless

theorem Script.result_of_benign (script : Script) (benign : script.benign = true) :
    script.result.outcome ≠ .escapes := by
  induction script with
  | returned answer =>
      rw [Script.result, BodyResult.outcome]
      cases answer.done with
      | true => exact fun impossible => by cases impossible
      | false => exact fun impossible => by cases impossible
  | raised error =>
      cases error with
      | gdbError => exact fun impossible => by cases impossible
      | other => cases benign
  | register registration check body rest bodyHypothesis restHypothesis =>
      simp only [Script.benign, Bool.and_eq_true] at benign
      have harmless := CheckOutcome.outcome_of_benign benign.1.1 (bodyHypothesis benign.1.2)
      rw [Script.result, if_neg (fun all => harmless all.2.1)]
      exact restHypothesis benign.2

theorem Response.outcome_of_benign {response : Response} (benign : response.benign = true) :
    response.outcome ≠ .escapes := by
  rw [Response.benign, Bool.and_eq_true] at benign
  exact CheckOutcome.outcome_of_benign benign.1 (response.body.result_of_benign benign.2)

/-! ## Exceptions that do no harm -/

instance (flag : CallbackObject -> Bool) (state : CallbackState) (callbacks : List Nat) :
    Decidable (Marked flag state callbacks) :=
  inferInstanceAs (Decidable (forall callback, callback ∈ callbacks -> flag (state.object callback) = true))

instance (responses : List Response) : Decidable (TidyPass responses) :=
  inferInstanceAs (Decidable (List.Pairwise
    (fun earlier later => earlier.outcome = .completes -> later.outcome ≠ .escapes) responses))

/-- A pass over the pending list is tidy, and completes nothing while the
waitlist still has a callback that no longer waits. -/
def TidyPendingPass (state : CallbackState) (responses : List Response) : Prop :=
  TidyPass responses ∧
    (Marked CallbackObject.waitingForTarget state state.targetWaitlist ∨
      forall response, response ∈ responses -> response.outcome ≠ .completes)

instance (state : CallbackState) (responses : List Response) : Decidable (TidyPendingPass state responses) :=
  inferInstanceAs (Decidable (_ ∧ (_ ∨ _)))

/-- The exceptions of an operation do no harm in a state. -/
def Operation.Tidy (state : CallbackState) : Operation -> Prop
  | .register _ _ => True
  | .newObjfile calls => state.paused = true ∨
      forall responses, responses ∈ calls -> TidyPendingPass state responses
  | .pause => True
  | .unpause responses => TidyPendingPass state responses
  | .targetReady responses => TidyPass responses

instance (state : CallbackState) : (operation : Operation) -> Decidable (operation.Tidy state)
  | .register _ _ => isTrue trivial
  | .newObjfile calls => inferInstanceAs (Decidable (state.paused = true ∨
      forall responses, responses ∈ calls -> TidyPendingPass state responses))
  | .pause => isTrue trivial
  | .unpause responses => inferInstanceAs (Decidable (TidyPendingPass state responses))
  | .targetReady responses => inferInstanceAs (Decidable (TidyPass responses))

/-- Every operation is tidy in the state it finds. -/
def TidyRun : CallbackState -> List Operation -> Prop
  | _, [] => True
  | state, operation :: rest => operation.Tidy state ∧ TidyRun (operation.run state) rest

instance : (operations : List Operation) -> (state : CallbackState) -> Decidable (TidyRun state operations)
  | [], _ => isTrue trivial
  | operation :: rest, state =>
      have : Decidable (TidyRun (operation.run state) rest) :=
        instDecidableTidyRun rest (operation.run state)
      inferInstanceAs (Decidable (_ ∧ _))

/-! ## One operation -/

theorem register_result {guard : Prop} {state : CallbackState} (registration : Registration)
    (response : Response) (before : PassResult guard state) :
    PassResult guard (register registration response.check response.body.run state).1 := by
  rcases register_spec response.body.run_spec registration response.check state with
    ⟨after, step, connected, registered⟩
  rw [registered]
  exact ⟨step.invariant before.invariant fun _ fresh => fresh.1,
    fun holds => step.waitlistWaiting before.invariant.toLoose (before.waiting holds)⟩

theorem PassResult.setPaused {guard : Prop} {state : CallbackState} (before : PassResult guard state)
    (paused : Bool) : PassResult guard { state with paused := paused } := by
  rcases before with ⟨⟨⟨⟨unique, below, flag, handlers⟩, settled, holds, waitlistUnique, waitlistBelow,
    waitlistHolds, sound⟩, pending, waitlist⟩, waiting⟩
  exact ⟨⟨⟨⟨unique, below, flag, handlers⟩, settled, holds, waitlistUnique, waitlistBelow,
    waitlistHolds, sound⟩, pending, waitlist⟩, waiting⟩

/-- An event calls the handler again and again, and each call keeps the
invariant. -/
theorem newObjfile_result {guard : Prop} {state : CallbackState} (calls : List (List Response))
    (before : PassResult guard state)
    (tidy : forall responses, responses ∈ calls -> TidyPass responses ∧
      (guard ∨ forall response, response ∈ responses -> response.outcome ≠ .completes)) :
    PassResult guard (newObjfile calls state) := by
  rw [newObjfile]
  generalize List.range state.handlers = handlers
  induction handlers generalizing state with
  | nil => exact before
  | cons handler rest inductionHypothesis =>
      rw [List.foldl_cons]
      apply inductionHypothesis
      cases found : calls[handler]? with
      | none =>
          exact evaluateAll_result before List.Pairwise.nil (Or.inr fun _ impossible => by cases impossible)
      | some responses =>
          rcases tidy responses (List.mem_of_getElem? found) with ⟨pass, guarded⟩
          exact evaluateAll_result before pass guarded

theorem newObjfile_paused {state : CallbackState} (calls : List (List Response))
    (paused : state.paused = true) : newObjfile calls state = state := by
  rw [newObjfile]
  generalize List.range state.handlers = handlers
  induction handlers with
  | nil => rfl
  | cons handler rest inductionHypothesis =>
      rw [List.foldl_cons, evaluateAll, if_pos paused]
      exact inductionHypothesis

/-- A tidy operation keeps the invariant. -/
theorem Operation.run_tidy {state : CallbackState} (operation : Operation)
    (before : CallbackInvariant state) (tidy : operation.Tidy state) :
    CallbackInvariant (operation.run state) := by
  have result : PassResult (Marked CallbackObject.waitingForTarget state state.targetWaitlist) state :=
    ⟨before, id⟩
  cases operation with
  | register registration response => exact (register_result registration response result).invariant
  | newObjfile calls =>
      rcases tidy with paused | tidy
      · rw [Operation.run, newObjfile_paused calls paused]
        exact before
      · exact (newObjfile_result calls result tidy).invariant
  | pause => exact (result.setPaused true).invariant
  | unpause responses => exact (evaluateAll_result (result.setPaused false) tidy.1 tidy.2).invariant
  | targetReady responses => exact (targetReady_result before tidy).1

/-- A benign operation is tidy, and leaves nobody on the waitlist that does not
wait. -/
theorem Operation.run_benign {state : CallbackState} (operation : Operation)
    (before : PassResult True state) (benign : operation.benign = true) :
    PassResult True (operation.run state) := by
  have clean : forall {responses : List Response}, responses.all Response.benign = true ->
      forall response, response ∈ responses -> response.outcome ≠ .escapes := by
    intro responses all response member
    exact Response.outcome_of_benign (List.all_eq_true.mp all response member)
  cases operation with
  | register registration response => exact register_result registration response before
  | newObjfile calls =>
      apply newObjfile_result calls before
      intro responses member
      exact ⟨TidyPass.of_clean (clean (List.all_eq_true.mp benign responses member)), Or.inl trivial⟩
  | pause => exact before.setPaused true
  | unpause responses =>
      exact evaluateAll_result (before.setPaused false) (TidyPass.of_clean (clean benign)) (Or.inl trivial)
  | targetReady responses =>
      rcases targetReady_result before.invariant (TidyPass.of_clean (clean benign)) with ⟨invariant, empties⟩
      refine ⟨invariant, fun _ => ?_⟩
      change Marked _ _ (Infra.targetReady responses state).1.targetWaitlist
      rw [empties (clean benign)]
      intro callback impossible
      cases impossible

/-! ## Whole runs -/

/-- Tidy runs keep the invariant. -/
theorem tidyRun_invariant {state : CallbackState} (operations : List Operation)
    (before : CallbackInvariant state) (tidy : TidyRun state operations) :
    CallbackInvariant (operations.foldl (fun state operation => operation.run state) state) := by
  induction operations generalizing state with
  | nil => exact before
  | cons operation rest inductionHypothesis =>
      exact inductionHypothesis (operation.run_tidy before tidy.1) tidy.2

/-- Benign runs keep the invariant. -/
theorem benignRun_result {state : CallbackState} (operations : List Operation)
    (before : PassResult True state)
    (benign : forall operation, operation ∈ operations -> operation.benign = true) :
    PassResult True (operations.foldl (fun state operation => operation.run state) state) := by
  induction operations generalizing state with
  | nil => exact before
  | cons operation rest inductionHypothesis =>
      apply inductionHypothesis (operation.run_benign before (benign operation List.mem_cons_self))
      intro later member
      exact benign later (List.mem_cons_of_mem _ member)

theorem PassResult.initial : PassResult True CallbackState.initial :=
  ⟨CallbackInvariant.initial, fun _ _ impossible => by cases impossible⟩

theorem Loose.called_open {state : CallbackState} (loose : Loose state) {callback : Nat}
    {completed : Bool} (member : CallbackEvent.called callback completed ∈ state.trace) :
    completed = false := by
  have sound := loose.sound _ member
  cases completed with
  | false => rfl
  | true => cases sound

theorem Loose.checked_active {state : CallbackState} (loose : Loose state) {callback : Nat}
    {waiting : Bool} (member : CallbackEvent.checkReady callback waiting ∈ state.trace) :
    waiting = false := by
  have sound := loose.sound _ member
  cases waiting with
  | false => rfl
  | true => cases sound

theorem Loose.never_raised {state : CallbackState} (loose : Loose state) (callback : Nat) :
    CallbackEvent.raisedCompleted callback ∉ state.trace := by
  intro member
  cases loose.sound _ member

theorem CallbackInvariant.mem_pendingList {state : CallbackState} (invariant : CallbackInvariant state)
    (callback : Nat) : callback ∈ state.pendingList <->
      callback < state.created ∧ (state.object callback).connected = true := by
  constructor
  · intro member
    exact ⟨invariant.pendingBelow callback member, invariant.pendingConnected callback member⟩
  · rintro ⟨below, connected⟩
    exact invariant.pendingHolds callback below connected

/-- After every benign run, and so after each of its operations, the pending
list holds exactly the connected callbacks, no completed callback is connected,
and no call was out of place. -/
theorem runOperations_coherent (operations : List Operation)
    (benign : forall operation, operation ∈ operations -> operation.benign = true) :
    (runOperations operations).pendingList.Nodup ∧
      (forall callback, callback ∈ (runOperations operations).pendingList <->
        callback < (runOperations operations).created ∧
          ((runOperations operations).object callback).connected = true) ∧
      (forall callback, callback < (runOperations operations).created ->
        ((runOperations operations).object callback).completed = true ->
          ((runOperations operations).object callback).connected = false) ∧
      (forall callback completed,
        CallbackEvent.called callback completed ∈ (runOperations operations).trace -> completed = false) ∧
      (forall callback waiting,
        CallbackEvent.checkReady callback waiting ∈ (runOperations operations).trace -> waiting = false) ∧
      (forall callback, CallbackEvent.raisedCompleted callback ∉ (runOperations operations).trace) := by
  have invariant := (benignRun_result operations PassResult.initial benign).invariant
  change CallbackInvariant (runOperations operations) at invariant
  refine ⟨invariant.pendingUnique, invariant.mem_pendingList, ?_, fun _ _ => invariant.called_open,
    fun _ _ => invariant.checked_active, invariant.never_raised⟩
  intro callback below completed
  cases connected : ((runOperations operations).object callback).connected with
  | false => rfl
  | true =>
      rw [(invariant.settled callback below).notBoth connected] at completed
      cases completed

/-- A run with waiting, nested, kept and completed callbacks. -/
def nestedRun : List Operation :=
  [ .register {} .notReady,
    .register { waitForTarget := false, objfiles := false } .notReady,
    .newObjfile [[.notReady, ⟨.returned .object,
      .register { waitForTarget := false } (.returned .true) (.returned .false) (.returned .none)⟩]],
    .pause,
    .targetReady [⟨.returned .object, .returned .true⟩],
    .unpause [⟨.raised .gdbError, .returned .none⟩] ]

/-- The run is benign, completes two callbacks and keeps the third. -/
theorem runOperations_coherent_nestedRun :
    (forall operation, operation ∈ nestedRun -> operation.benign = true) ∧
      (runOperations nestedRun).created = 3 ∧ (runOperations nestedRun).pendingList = [2] ∧
      (forall callback, callback ∈ (runOperations nestedRun).pendingList <->
        callback < (runOperations nestedRun).created ∧
          ((runOperations nestedRun).object callback).connected = true) := by
  have benign : forall operation, operation ∈ nestedRun -> operation.benign = true := by decide
  exact ⟨benign, by decide, by decide, (runOperations_coherent nestedRun benign).2.1⟩

/-- In a tidy run, no exception makes a later operation call a completed
callback or raise `CallbackCompleted`. -/
theorem tidyRun_never_repeats (operations : List Operation)
    (tidy : TidyRun CallbackState.initial operations) :
    (forall callback completed,
      CallbackEvent.called callback completed ∈ (runOperations operations).trace -> completed = false) ∧
      (forall callback, CallbackEvent.raisedCompleted callback ∉ (runOperations operations).trace) := by
  have invariant := tidyRun_invariant operations CallbackInvariant.initial tidy
  exact ⟨fun _ _ => invariant.called_open, invariant.never_raised⟩

/-- A `target_ready` that raises before anything was completed, and is
repeated. -/
def repeatedTargetRun : List Operation :=
  [ .register {} .notReady,
    .register {} .notReady,
    .targetReady [⟨.returned .object, .raised .other⟩],
    .newObjfile [[⟨.raised .other, .returned .none⟩]],
    .targetReady [⟨.returned .object, .returned .none⟩, ⟨.returned .object, .returned .none⟩],
    .unpause [⟨.returned .object, .returned .none⟩] ]

theorem tidyRun_never_repeats_repeatedTarget :
    TidyRun CallbackState.initial repeatedTargetRun ∧
      (forall callback, CallbackEvent.raisedCompleted callback ∉ (runOperations repeatedTargetRun).trace) := by
  have tidy : TidyRun CallbackState.initial repeatedTargetRun := by decide
  exact ⟨tidy, (tidyRun_never_repeats repeatedTargetRun tidy).2⟩

/-- Two callbacks wait for the target.  The first is completed and the second
raises, so `target_ready` never reaches its clean-up, and the next objfile event
calls the first one again. -/
theorem targetReady_exception_repeats :
    let operations : List Operation :=
      [ .register {} .notReady, .register {} .notReady,
        .targetReady [⟨.returned .object, .returned .none⟩, ⟨.returned .object, .raised .other⟩] ]
    ((runOperations operations).object 0).completed = true ∧
      (targetReady [⟨.returned .object, .returned .none⟩, ⟨.returned .object, .raised .other⟩]
        (runOperations (operations.take 2))).2 = some .other ∧
      CallbackEvent.called 0 true ∈
        (runOperations (operations ++ [.newObjfile [[⟨.returned .object, .returned .none⟩]]])).trace ∧
      CallbackEvent.raisedCompleted 0 ∈
        (runOperations (operations ++ [.newObjfile [[⟨.returned .object, .returned .none⟩]]])).trace := by
  decide

end Infra
end CrashPython

import CrashPython.Infra.CallbackRegistration

namespace CrashPython
namespace Infra

open Library

/-!
# The invariant of the two shared lists

Between two operations the pending list holds exactly the connected callbacks,
and the callbacks on the waitlist are connected as well.  Inside a sweep the
pending list may also hold callbacks that were completed a moment ago, so the
invariant is cut in layers.  `Listed` is what holds at every moment of every
run.  `Loose` holds at every moment as long as no completed callback is
evaluated again.  `CallbackInvariant` is what a pass has to restore.

A pass that an exception abandons does not reach its clean-up.  It restores the
invariant nevertheless if nothing was completed before the exception, and
`TidyPass` states this of the responses of a pass.
-/

/-- Every entry of a list has a flag. -/
def Marked (flag : CallbackObject -> Bool) (state : CallbackState) (callbacks : List Nat) : Prop :=
  forall callback, callback ∈ callbacks -> flag (state.object callback) = true

/-- The book-keeping that no exception can disturb.  As the class attribute is
never set, every object connects the event handler once more. -/
structure Listed (state : CallbackState) : Prop where
  pendingUnique : state.pendingList.Nodup
  pendingBelow : forall callback, callback ∈ state.pendingList -> callback < state.created
  flag : state.connectedToObjfileCallback = false
  handlers : state.handlers = state.created

/-- The part of the invariant that also holds in the middle of a pass. -/
structure Loose (state : CallbackState) : Prop extends Listed state where
  settled : forall callback, callback < state.created -> (state.object callback).Settled
  pendingHolds : forall callback, callback < state.created ->
    (state.object callback).connected = true -> callback ∈ state.pendingList
  waitlistUnique : state.targetWaitlist.Nodup
  waitlistBelow : forall callback, callback ∈ state.targetWaitlist -> callback < state.created
  waitlistHolds : forall callback, callback < state.created ->
    (state.object callback).waitingForTarget = true -> callback ∈ state.targetWaitlist
  sound : forall event, event ∈ state.trace -> event.sound = true

/-- The invariant between operations. -/
structure CallbackInvariant (state : CallbackState) : Prop extends Loose state where
  pendingConnected : Marked CallbackObject.connected state state.pendingList
  waitlistConnected : Marked CallbackObject.connected state state.targetWaitlist

theorem CallbackInvariant.initial : CallbackInvariant CallbackState.initial where
  pendingUnique := List.nodup_nil
  pendingBelow := fun _ impossible => by cases impossible
  flag := rfl
  handlers := rfl
  settled := fun _ impossible => by cases impossible
  pendingHolds := fun _ impossible => by cases impossible
  waitlistUnique := List.nodup_nil
  waitlistBelow := fun _ impossible => by cases impossible
  waitlistHolds := fun _ impossible => by cases impossible
  sound := fun _ impossible => by cases impossible
  pendingConnected := fun _ impossible => by cases impossible
  waitlistConnected := fun _ impossible => by cases impossible

/-! ## Registrations keep every layer -/

section Growth

variable {flag other : CallbackObject -> Bool} {before after : CallbackState} {early late : List Nat}

theorem GrewBy.nodup (grew : GrewBy flag before after early late) (unique : early.Nodup)
    (below : forall callback, callback ∈ early -> callback < before.created) : late.Nodup := by
  rcases grew with ⟨added, shape, fresh, members⟩
  rw [shape, List.nodup_append]
  refine ⟨unique, fresh, ?_⟩
  intro callback old callback' new same
  subst same
  exact Nat.not_lt_of_ge ((members callback).mp new).1 (below callback old)

theorem GrewBy.below (grew : GrewBy flag before after early late) (grows : before.created ≤ after.created)
    (below : forall callback, callback ∈ early -> callback < before.created) :
    forall callback, callback ∈ late -> callback < after.created := by
  rcases grew with ⟨added, shape, _, members⟩
  intro callback member
  rw [shape] at member
  rcases List.mem_append.mp member with old | new
  · exact Nat.lt_of_lt_of_le (below callback old) grows
  · exact ((members callback).mp new).2.1

theorem GrewBy.holds (grew : GrewBy flag before after early late)
    (frame : forall callback, callback < before.created -> after.object callback = before.object callback)
    (holds : forall callback, callback < before.created -> flag (before.object callback) = true ->
      callback ∈ early) :
    forall callback, callback < after.created -> flag (after.object callback) = true ->
      callback ∈ late := by
  rcases grew with ⟨added, shape, _, members⟩
  intro callback below set
  rw [shape]
  rcases Nat.lt_or_ge callback before.created with old | new
  · rw [frame callback old] at set
    exact List.mem_append_left _ (holds callback old set)
  · exact List.mem_append_right _ ((members callback).mpr ⟨new, below, set⟩)

/-- A flag of the entries from a position on, when the new entries have it. -/
theorem GrewBy.marked (grew : GrewBy flag before after early late)
    (frame : forall callback, callback < before.created -> after.object callback = before.object callback)
    (below : forall callback, callback ∈ early -> callback < before.created)
    (implies : forall callback, before.created ≤ callback -> callback < after.created ->
      flag (after.object callback) = true -> other (after.object callback) = true)
    {index : Nat} (marked : Marked other before (early.drop index)) :
    Marked other after (late.drop index) := by
  rcases grew with ⟨added, shape, _, members⟩
  intro callback member
  rw [shape, List.drop_append] at member
  rcases List.mem_append.mp member with old | new
  · rw [frame callback (below callback (List.mem_of_mem_drop old))]
    exact marked callback old
  · rcases (members callback).mp (List.mem_of_mem_drop new) with ⟨above, bound, set⟩
    exact implies callback above bound set

end Growth

namespace Registers

variable {allowed : CallbackEvent -> Prop} {before after : CallbackState}

theorem listed (step : Registers allowed before after) (listed : Listed before) : Listed after where
  pendingUnique := step.pending.nodup listed.pendingUnique listed.pendingBelow
  pendingBelow := step.pending.below step.grows listed.pendingBelow
  flag := step.flag.trans listed.flag
  handlers := by
    have counted := step.handlers listed.flag
    have equal := listed.handlers
    omega

theorem pendingMarked (step : Registers allowed before after) (listed : Listed before) (index : Nat)
    (marked : Marked CallbackObject.connected before (before.pendingList.drop index)) :
    Marked CallbackObject.connected after (after.pendingList.drop index) :=
  step.pending.marked step.frame listed.pendingBelow (fun _ _ _ set => set) marked

theorem waitlistMarked (step : Registers allowed before after) (loose : Loose before) (index : Nat)
    (marked : Marked CallbackObject.connected before (before.targetWaitlist.drop index)) :
    Marked CallbackObject.connected after (after.targetWaitlist.drop index) := by
  apply step.waitlist.marked step.frame loose.waitlistBelow ?_ marked
  intro callback above below waiting
  exact (step.settled callback above below).waits waiting

theorem waitlistWaiting (step : Registers allowed before after) (loose : Loose before)
    (marked : Marked CallbackObject.waitingForTarget before before.targetWaitlist) :
    Marked CallbackObject.waitingForTarget after after.targetWaitlist := by
  change Marked CallbackObject.waitingForTarget before (before.targetWaitlist.drop 0) at marked
  exact step.waitlist.marked step.frame loose.waitlistBelow (fun _ _ _ set => set) marked

theorem loose (step : Registers allowed before after) (loose : Loose before)
    (permitted : forall event, allowed event -> event.sound = true) : Loose after where
  toListed := step.listed loose.toListed
  settled := by
    intro callback below
    rcases Nat.lt_or_ge callback before.created with old | new
    · rw [step.frame callback old]
      exact loose.settled callback old
    · exact step.settled callback new below
  pendingHolds := step.pending.holds step.frame loose.pendingHolds
  waitlistUnique := step.waitlist.nodup loose.waitlistUnique loose.waitlistBelow
  waitlistBelow := step.waitlist.below step.grows loose.waitlistBelow
  waitlistHolds := step.waitlist.holds step.frame loose.waitlistHolds
  sound := by
    rcases step.trace with ⟨added, shape, allowedAdded⟩
    intro event member
    rw [shape] at member
    rcases List.mem_append.mp member with old | new
    · exact loose.sound event old
    · exact permitted event (allowedAdded event new)

theorem invariant (step : Registers allowed before after) (invariant : CallbackInvariant before)
    (permitted : forall event, allowed event -> event.sound = true) : CallbackInvariant after where
  toLoose := step.loose invariant.toLoose permitted
  pendingConnected := step.pendingMarked invariant.toListed 0 invariant.pendingConnected
  waitlistConnected := step.waitlistMarked invariant.toLoose 0 invariant.waitlistConnected

end Registers

/-! ## Changing one object, and the clean-up -/

section Updates

variable {callback : Nat} {object : CallbackObject} {state : CallbackState}

theorem Listed.setObject (listed : Listed state) : Listed (state.setObject callback object) where
  pendingUnique := listed.pendingUnique
  pendingBelow := listed.pendingBelow
  flag := listed.flag
  handlers := listed.handlers

theorem Marked.setObject_of_notMem {flag : CallbackObject -> Bool} {callbacks : List Nat}
    (marked : Marked flag state callbacks) (absent : callback ∉ callbacks) :
    Marked flag (state.setObject callback object) callbacks := by
  intro other member
  have different : other ≠ callback := fun same => absent (same ▸ member)
  rw [CallbackState.setObject_of_ne different]
  exact marked other member

theorem Marked.setObject_of_flag {flag : CallbackObject -> Bool} {callbacks : List Nat}
    (marked : Marked flag state callbacks) (keeps : flag object = flag (state.object callback)) :
    Marked flag (state.setObject callback object) callbacks := by
  intro other member
  by_cases same : other = callback
  · subst same
    rw [CallbackState.setObject_self, keeps]
    exact marked other member
  · rw [CallbackState.setObject_of_ne same]
    exact marked other member

/-- An object may lose flags, as long as its flags stay settled. -/
theorem Loose.setObject (loose : Loose state) (settled : object.Settled)
    (connected : object.connected = true -> (state.object callback).connected = true)
    (waiting : object.waitingForTarget = true -> (state.object callback).waitingForTarget = true) :
    Loose (state.setObject callback object) where
  toListed := loose.toListed.setObject
  settled := by
    intro other below
    by_cases same : other = callback
    · subst same
      rw [CallbackState.setObject_self]
      exact settled
    · rw [CallbackState.setObject_of_ne same]
      exact loose.settled other below
  pendingHolds := by
    intro other below set
    by_cases same : other = callback
    · subst same
      rw [CallbackState.setObject_self] at set
      exact loose.pendingHolds other below (connected set)
    · rw [CallbackState.setObject_of_ne same] at set
      exact loose.pendingHolds other below set
  waitlistUnique := loose.waitlistUnique
  waitlistBelow := loose.waitlistBelow
  waitlistHolds := by
    intro other below set
    by_cases same : other = callback
    · subst same
      rw [CallbackState.setObject_self] at set
      exact loose.waitlistHolds other below (waiting set)
    · rw [CallbackState.setObject_of_ne same] at set
      exact loose.waitlistHolds other below set
  sound := loose.sound

theorem Loose.finish (loose : Loose state) (active : (state.object callback).waitingForTarget = false) :
    Loose (state.setObject callback (state.object callback).finish) := by
  apply loose.setObject
  · constructor
    · intro impossible
      cases impossible
    · intro waiting
      exact False.elim (Bool.false_ne_true (active.symm.trans waiting))
  · intro impossible
    cases impossible
  · exact fun waiting => waiting

theorem Loose.wake (loose : Loose state) (below : callback < state.created) :
    Loose (state.setObject callback (state.object callback).wake) := by
  apply loose.setObject
  · refine ⟨(loose.settled callback below).notBoth, ?_⟩
    intro impossible
    cases impossible
  · exact fun connected => connected
  · intro impossible
    cases impossible

theorem Listed.updatePending (listed : Listed state) : Listed state.updatePending where
  pendingUnique := listed.pendingUnique.filter _
  pendingBelow := fun callback member => listed.pendingBelow callback (List.mem_of_mem_filter member)
  flag := listed.flag
  handlers := listed.handlers

/-- `_update_pending` restores the invariant of the pending list. -/
theorem Loose.updatePending (loose : Loose state)
    (waitlist : Marked CallbackObject.connected state state.targetWaitlist) :
    CallbackInvariant state.updatePending where
  toListed := loose.toListed.updatePending
  settled := loose.settled
  pendingHolds := fun callback below connected =>
    List.mem_filter.mpr ⟨loose.pendingHolds callback below connected, connected⟩
  waitlistUnique := loose.waitlistUnique
  waitlistBelow := loose.waitlistBelow
  waitlistHolds := loose.waitlistHolds
  sound := loose.sound
  pendingConnected := fun _ member => (List.mem_filter.mp member).2
  waitlistConnected := waitlist

/-- The waitlist may be cleared once nobody waits. -/
theorem Loose.clearWaitlist (loose : Loose state)
    (nobody : forall callback, callback ∈ state.targetWaitlist ->
      (state.object callback).waitingForTarget = false) :
    Loose { state with targetWaitlist := [] } where
  toListed := ⟨loose.pendingUnique, loose.pendingBelow, loose.flag, loose.handlers⟩
  settled := loose.settled
  pendingHolds := loose.pendingHolds
  waitlistUnique := List.nodup_nil
  waitlistBelow := fun _ impossible => by cases impossible
  waitlistHolds := by
    intro callback below waiting
    have member := loose.waitlistHolds callback below waiting
    exact False.elim (Bool.false_ne_true ((nobody callback member).symm.trans waiting))
  sound := loose.sound

end Updates

end Infra
end CrashPython

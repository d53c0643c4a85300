import CrashPython.Library.Trace

namespace CrashPython
namespace Library

/-!
How a procedure can change its state.

A procedure that can be left by an exception still leaves a state behind.
`Evolves` relates the state before a procedure to the state after it, however
the procedure ended.  For a reflexive and transitive relation it is enough to
look at the single updates: the rules below carry the relation through
sequences, branches and loops.  `Keeps` is the case of a portion of the state
that stays as it was.
-/

variable {Error State Value Result Item Found Portion : Type}

/-- The state a procedure leaves behind. -/
def finalState : EStateM.Result Error State Value -> State
  | .ok _ state => state
  | .error _ state => state

/-- What a procedure returns does not matter for the state it leaves behind. -/
theorem finalState_discard (procedure : EStateM Error State Value) (state : State) :
    finalState ((discard procedure : EStateM Error State PUnit).run state) =
      finalState (procedure.run state) := by
  have same : (discard procedure : EStateM Error State PUnit) =
      procedure >>= fun _ => pure PUnit.unit :=
    map_eq_pure_bind (fun _ => PUnit.unit) procedure
  rw [same, EStateM.run_bind]
  cases procedure.run state with
  | ok value after => rfl
  | error error after => rfl

/-- A relation that holds along any number of updates once it holds along each
of them. -/
structure Accumulates (relation : State -> State -> Prop) : Prop where
  refl : forall state, relation state state
  trans : forall {first second third}, relation first second -> relation second third ->
    relation first third

/-- The portion of the state is the same. -/
def Keeps (portion : State -> Portion) (before after : State) : Prop :=
  portion after = portion before

theorem keeps_accumulates (portion : State -> Portion) : Accumulates (Keeps portion) :=
  ⟨fun _ => rfl, fun first second => second.trans first⟩

/-- Every run of the procedure takes its state to a related one. -/
def Evolves (relation : State -> State -> Prop) (procedure : EStateM Error State Value) : Prop :=
  forall state, relation state (finalState (procedure.run state))

namespace Evolves

variable {relation : State -> State -> Prop}

theorem ok {procedure : EStateM Error State Value} {before after : State} {value : Value}
    (evolves : Evolves relation procedure) (ran : procedure.run before = .ok value after) :
    relation before after := by
  have step := evolves before
  rw [ran] at step
  exact step

theorem update {change : State -> State} (step : forall state, relation state (change state)) :
    Evolves relation (modify change : EStateM Error State PUnit) :=
  step

theorem looks {body : State -> EStateM Error State Value}
    (continues : forall state, Evolves relation (body state)) : Evolves relation (get >>= body) :=
  fun state => continues state state

theorem discarding {procedure : EStateM Error State Value} (evolves : Evolves relation procedure) :
    Evolves relation (discard procedure) := by
  intro state
  rw [finalState_discard]
  exact evolves state

variable (accumulates : Accumulates relation)

include accumulates

theorem returns (value : Value) : Evolves relation (pure value : EStateM Error State Value) :=
  accumulates.refl

theorem reads {read : Except Error Found} {body : Found -> EStateM Error State Value}
    (continues : forall found, Evolves relation (body found)) :
    Evolves relation (raising read >>= body) := by
  cases read with
  | error error => exact accumulates.refl
  | ok found => exact continues found

theorem andThen {first : EStateM Error State Value} {second : Value -> EStateM Error State Result}
    (initially : Evolves relation first) (afterwards : forall value, Evolves relation (second value)) :
    Evolves relation (first >>= second) := by
  intro state
  have step := initially state
  rw [EStateM.run_bind]
  cases done : first.run state with
  | error error middle =>
      rw [done] at step
      exact step
  | ok value middle =>
      rw [done] at step
      exact accumulates.trans step (afterwards value middle)

theorem updateThen {change : State -> State} {rest : PUnit -> EStateM Error State Value}
    (step : forall state, relation state (change state))
    (continues : Evolves relation (rest ⟨⟩)) : Evolves relation (modify change >>= rest) :=
  andThen accumulates (update step) fun _ => continues

theorem loop {items : List Item} {body : Item -> EStateM Error State PUnit}
    (rounds : forall item, Evolves relation (body item)) : Evolves relation (items.forM body) := by
  induction items with
  | nil => exact accumulates.refl
  | cons item rest inductionHypothesis =>
      exact andThen accumulates (rounds item) fun _ => inductionHypothesis

theorem fold {items : List Item} {body : Value -> Item -> EStateM Error State Value}
    (rounds : forall carried item, Evolves relation (body carried item)) (carried : Value) :
    Evolves relation (items.foldlM body carried) := by
  induction items generalizing carried with
  | nil => exact accumulates.refl
  | cons item rest inductionHypothesis =>
      rw [List.foldlM_cons]
      exact andThen accumulates (rounds carried item) inductionHypothesis

end Evolves
end Library
end CrashPython

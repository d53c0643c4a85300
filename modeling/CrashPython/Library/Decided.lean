import CrashPython.Library.Frame

namespace CrashPython
namespace Library

/-!
How a procedure ends.

Where the answers to a procedure do not depend on what it did before, a condition on the answers
decides whether the procedure returns or is left by an exception.  `Decided` says so for all
states with an invariant, which the procedure keeps as long as it goes on.  The rules put the
conditions of sequences and loops together from those of their parts.
-/

variable {Error State Value Result Item : Type} {invariant : State -> Prop} {condition : Prop}

/-- The procedure returns what was read, or raises it. -/
def Ends (invariant : State -> Prop) (read : Except Error Value)
    (procedure : EStateM Error State Value) : Prop :=
  forall state, invariant state -> Exists fun after : State => invariant after ∧
    procedure.run state = (raising read : EStateM Error State Value).run after

/-- The procedure returns if the condition holds, and is left by an exception if not. -/
structure Decided (invariant : State -> Prop) (condition : Prop)
    (procedure : EStateM Error State Value) : Prop where
  returns : forall state, invariant state -> condition ->
    Exists fun value : Value => Exists fun after : State =>
      procedure.run state = .ok value after ∧ invariant after
  raises : forall state, invariant state -> ¬ condition ->
    Exists fun error : Error => Exists fun after : State =>
      procedure.run state = .error error after

namespace Ends

theorem reads (read : Except Error Value) :
    Ends invariant read (raising read : EStateM Error State Value) :=
  fun state kept => ⟨state, kept, rfl⟩

theorem updates {change : State -> State}
    (keeps : forall state, invariant state -> invariant (change state)) :
    Ends invariant (.ok ⟨⟩) (modify change : EStateM Error State PUnit) :=
  fun state kept => ⟨change state, keeps state kept, rfl⟩

theorem andThen {read : Except Error Value} {next : Value -> Except Error Result}
    {first : EStateM Error State Value} {second : Value -> EStateM Error State Result}
    (initially : Ends invariant read first)
    (afterwards : forall value, read = .ok value -> Ends invariant (next value) (second value)) :
    Ends invariant (read >>= next) (first >>= second) := by
  intro state kept
  rcases initially state kept with ⟨after, still, ran⟩
  cases found : read with
  | error error =>
      subst found
      refine ⟨after, still, ?_⟩
      rw [EStateM.run_bind, ran]
      rfl
  | ok value =>
      subst found
      rcases afterwards value rfl after still with ⟨last, remains, ends⟩
      refine ⟨last, remains, ?_⟩
      rw [EStateM.run_bind, ran]
      exact ends

end Ends

namespace Decided

theorem pure (value : Value) :
    Decided invariant True (Pure.pure value : EStateM Error State Value) where
  returns := fun state kept _ => ⟨value, state, rfl, kept⟩
  raises := fun _ _ impossible => absurd trivial impossible

theorem throw (error : Error) :
    Decided invariant False (MonadExcept.throw error : EStateM Error State Value) where
  returns := fun _ _ impossible => False.elim impossible
  raises := fun state _ _ => ⟨error, state, rfl⟩

theorem updates {change : State -> State}
    (keeps : forall state, invariant state -> invariant (change state)) :
    Decided invariant True (modify change : EStateM Error State PUnit) where
  returns := fun state kept _ => ⟨⟨⟩, change state, rfl, keeps state kept⟩
  raises := fun _ _ impossible => absurd trivial impossible

theorem congr {other : Prop} {procedure : EStateM Error State Value}
    (decided : Decided invariant condition procedure) (iff : condition <-> other) :
    Decided invariant other procedure where
  returns := fun state kept holds => decided.returns state kept (iff.mpr holds)
  raises := fun state kept fails => decided.raises state kept fun holds => fails (iff.mp holds)

/-- A procedure that goes on with what another one ended with. -/
theorem ofEnds {read : Except Error Value} {first : EStateM Error State Value}
    {second : Value -> EStateM Error State Result} (ends : Ends invariant read first)
    (fails : forall error, read = .error error -> ¬ condition)
    (continues : forall value, read = .ok value -> Decided invariant condition (second value)) :
    Decided invariant condition (first >>= second) := by
  cases found : read with
  | error error =>
      subst found
      refine ⟨fun _ _ holds => absurd holds (fails error rfl), fun state kept _ => ?_⟩
      rcases ends state kept with ⟨after, _, ran⟩
      refine ⟨error, after, ?_⟩
      rw [EStateM.run_bind, ran]
      rfl
  | ok value =>
      subst found
      constructor
      · intro state kept holds
        rcases ends state kept with ⟨after, still, ran⟩
        rw [EStateM.run_bind, ran]
        exact (continues value rfl).returns after still holds
      · intro state kept fails
        rcases ends state kept with ⟨after, still, ran⟩
        rw [EStateM.run_bind, ran]
        exact (continues value rfl).raises after still fails

/-- A procedure that is nothing but a read. -/
theorem raising (read : Except Error Value) : Decided invariant
    (Exists fun value : Value => read = .ok value)
    (Library.raising read : EStateM Error State Value) := by
  cases read with
  | error error =>
      refine ⟨?_, fun state _ _ => ⟨error, state, rfl⟩⟩
      rintro _ _ ⟨_, impossible⟩
      cases impossible
  | ok value =>
      exact ⟨fun state kept _ => ⟨value, state, rfl, kept⟩,
        fun _ _ fails => absurd ⟨value, rfl⟩ fails⟩

/-- One procedure after the other. -/
theorem andThen {later : Prop} {first : EStateM Error State Value}
    {second : Value -> EStateM Error State Result}
    (initially : Decided invariant condition first)
    (afterwards : forall value, Decided invariant later (second value)) :
    Decided invariant (condition ∧ later) (first >>= second) := by
  constructor
  · rintro state kept ⟨holds, holdsLater⟩
    rcases initially.returns state kept holds with ⟨value, after, ran, still⟩
    rw [EStateM.run_bind, ran]
    exact (afterwards value).returns after still holdsLater
  · intro state kept fails
    by_cases holds : condition
    · rcases initially.returns state kept holds with ⟨value, after, ran, still⟩
      rw [EStateM.run_bind, ran]
      exact (afterwards value).raises after still fun last => fails ⟨holds, last⟩
    · rcases initially.raises state kept holds with ⟨error, after, ran⟩
      refine ⟨error, after, ?_⟩
      rw [EStateM.run_bind, ran]

/-- A loop returns if all its rounds do. -/
theorem loop {items : List Item} {each : Item -> Prop} {body : Item -> EStateM Error State PUnit}
    (rounds : forall item, item ∈ items -> Decided invariant (each item) (body item)) :
    Decided invariant (forall item, item ∈ items -> each item) (items.forM body) := by
  induction items with
  | nil =>
      apply (pure PUnit.unit).congr
      exact ⟨fun _ _ member => False.elim (List.not_mem_nil member), fun _ => trivial⟩
  | cons item rest inductionHypothesis =>
      have later := inductionHypothesis fun other member =>
        rounds other (List.mem_cons_of_mem item member)
      apply ((rounds item List.mem_cons_self).andThen fun _ => later).congr
      exact List.forall_mem_cons.symm

end Decided
end Library
end CrashPython

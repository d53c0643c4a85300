import CrashPython.Library.Trace

namespace CrashPython
namespace Library

/-!
Checkers with an error flag.

A checker runs through a number of conditions and raises a flag at each one it
finds violated; nothing ever lowers the flag.  `Checks` says which condition a
part of a checker stands for: if the part returns, the flag is down after it
exactly when it was down before and the condition holds.  A part may rely on a
portion of the state that the checker has fixed beforehand, and it leaves that
portion alone.

The parts of a checker compose: a sequence stands for the conjunction of the
conditions of its parts, a loop for the conditions of all its rounds.
-/

variable {Error State Fixed Value Item Found : Type}

/-- A sequence that returns is made of two procedures that return. -/
theorem run_bind_ok {Result : Type} {first : EStateM Error State Value}
    {second : Value -> EStateM Error State Result} {before after : State} {result : Result}
    (ran : (first >>= second).run before = .ok result after) :
    Exists fun value : Value => Exists fun middle : State =>
      first.run before = .ok value middle ∧ (second value).run middle = .ok result after := by
  rw [EStateM.run_bind] at ran
  cases done : first.run before with
  | error error state =>
      rw [done] at ran
      cases ran
  | ok value middle =>
      rw [done] at ran
      exact ⟨value, middle, rfl, ran⟩

/-- A part of a checker and the condition it stands for. -/
def Checks (flag : State -> Bool) (portion : State -> Fixed) (fixed : Fixed) (sound : Prop)
    (part : EStateM Error State Value) : Prop :=
  forall before value after, portion before = fixed -> part.run before = .ok value after ->
    portion after = fixed ∧ (flag after = false <-> flag before = false ∧ sound)

namespace Checks

variable {flag : State -> Bool} {portion : State -> Fixed} {fixed : Fixed} {sound other : Prop}

theorem congr {part : EStateM Error State Value} (checks : Checks flag portion fixed sound part)
    (same : sound <-> other) : Checks flag portion fixed other part := by
  intro before value after start ran
  rw [← same]
  exact checks before value after start ran

/-- A part that changes neither the flag nor the fixed portion. -/
theorem silent {part : EStateM Error State Value}
    (quiet : forall before value after, part.run before = .ok value after ->
      flag after = flag before ∧ portion after = portion before) :
    Checks flag portion fixed True part := by
  intro before value after start ran
  rcases quiet before value after ran with ⟨sameFlag, samePortion⟩
  rw [sameFlag, samePortion, and_true]
  exact ⟨start, Iff.rfl⟩

theorem returns (value : Value) :
    Checks flag portion fixed True (pure value : EStateM Error State Value) := by
  apply silent
  intro before value after ran
  cases ran
  exact ⟨rfl, rfl⟩

/-- A part that raises the flag. -/
theorem raise {change : State -> State} (raised : forall state, flag (change state) = true)
    (kept : forall state, portion (change state) = portion state) :
    Checks flag portion fixed False (modify change : EStateM Error State PUnit) := by
  intro before value after start ran
  cases ran
  rw [raised, kept]
  simp only [Bool.true_eq_false, and_false, iff_self, and_true]
  exact start

/-- A violated condition raises the flag. -/
theorem test {violated : Prop} [Decidable violated] {change : State -> State}
    (raised : forall state, flag (change state) = true)
    (kept : forall state, portion (change state) = portion state) :
    Checks flag portion fixed (¬ violated)
      (if violated then modify change else pure ⟨⟩ : EStateM Error State PUnit) := by
  by_cases here : violated
  · rw [if_pos here]
    apply (raise raised kept).congr
    simp only [here, not_true_eq_false]
  · rw [if_neg here]
    apply (returns PUnit.unit).congr
    simp only [here, not_false_eq_true]

/-- One part after the other. -/
theorem andThen {Result : Type} {first : EStateM Error State Value}
    {second : Value -> EStateM Error State Result}
    (initially : Checks flag portion fixed sound first)
    (afterwards : forall value, Checks flag portion fixed other (second value)) :
    Checks flag portion fixed (sound ∧ other) (first >>= second) := by
  intro before result after start ran
  rcases run_bind_ok ran with ⟨value, middle, ranFirst, ranSecond⟩
  rcases initially before value middle start ranFirst with ⟨keptFirst, flagFirst⟩
  rcases afterwards value middle result after keptFirst ranSecond with ⟨keptSecond, flagSecond⟩
  refine ⟨keptSecond, ?_⟩
  rw [flagSecond, flagFirst, and_assoc]

/-- A part that starts with a read.  If the read fails, the part does not
return. -/
theorem reads {Result : Type} {read : Except Error Found}
    {body : Found -> EStateM Error State Result}
    (continues : forall found, read = .ok found -> Checks flag portion fixed sound (body found)) :
    Checks flag portion fixed sound (raising read >>= body) := by
  intro before result after start ran
  cases read with
  | error error => cases ran
  | ok found => exact continues found rfl before result after start ran

/-- A part that looks at the state. -/
theorem looks {Result : Type} {body : State -> EStateM Error State Result}
    (continues : forall state, portion state = fixed -> Checks flag portion fixed sound (body state)) :
    Checks flag portion fixed sound (get >>= body) := by
  intro before result after start ran
  exact continues before start before result after start ran

end Checks
end Library
end CrashPython

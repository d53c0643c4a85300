import Mathlib.Data.List.Induction

namespace CrashPython
namespace Library

/-!
Callbacks in an order that is not known beforehand.

A number of callbacks work on one state, and each of them may raise an exception.
What the state is after some of them is said best as a function of the events so far,
their history.  It is then enough to look at one callback after any history: whether
it returns, and that it leaves the state that belongs to the longer history.
-/

variable {Event State Error : Type}

/-- Each of the events comes after a history that it is ready for. -/
def AllReady (ready : List Event -> Event -> Prop) (events : List Event) : Prop :=
  forall before event after, events = before ++ event :: after -> ready before event

/-- One of the events comes after a history with the given property. -/
def SomeTime (timely : List Event -> Event -> Prop) (events : List Event) : Prop :=
  Exists fun before : List Event => Exists fun event : Event => Exists fun after : List Event =>
    events = before ++ event :: after ∧ timely before event

theorem allReady_nil (ready : List Event -> Event -> Prop) : AllReady ready [] :=
  fun _ _ _ split => absurd split.symm (List.append_ne_nil_of_right_ne_nil _ (List.cons_ne_nil _ _))

theorem allReady_concat {ready : List Event -> Event -> Prop} {events : List Event} {last : Event} :
    AllReady ready (events ++ [last]) <-> AllReady ready events ∧ ready events last := by
  constructor
  · intro all
    refine ⟨?_, all events last [] rfl⟩
    rintro before event after rfl
    exact all before event (after ++ [last]) (by rw [List.append_assoc]; rfl)
  · rintro ⟨all, final⟩ before event after split
    rcases List.eq_nil_or_concat after with rfl | ⟨rest, other, rfl⟩
    · rcases List.append_inj' split rfl with ⟨rfl, same⟩
      cases same
      exact final
    · rw [List.concat_eq_append, ← List.cons_append, ← List.append_assoc] at split
      exact all before event rest (List.append_inj' split rfl).1

/-- Each place has the events before it as its history. -/
theorem allReady_iff_take {ready : List Event -> Event -> Prop} {events : List Event} :
    AllReady ready events <->
      forall n : Fin events.length, ready (events.take n) (events.get n) := by
  constructor
  · intro all n
    refine all (events.take n) (events.get n) (events.drop (n + 1)) ?_
    rw [List.get_eq_getElem, ← List.drop_eq_getElem_cons, List.take_append_drop]
  · rintro places before event after rfl
    have inside : before.length < (before ++ event :: after).length := by simp
    have place := places ⟨before.length, inside⟩
    simpa using place

instance (ready : List Event -> Event -> Prop) [DecidableRel ready] (events : List Event) :
    Decidable (AllReady ready events) :=
  decidable_of_iff _ allReady_iff_take.symm

theorem someTime_iff {timely : List Event -> Event -> Prop} {events : List Event} :
    SomeTime timely events <-> ¬ AllReady (fun before event => ¬ timely before event) events := by
  simp only [SomeTime, AllReady]
  simp only [not_forall, not_not, exists_prop]

instance (timely : List Event -> Event -> Prop) [DecidableRel timely] (events : List Event) :
    Decidable (SomeTime timely events) :=
  decidable_of_iff _ someTime_iff.symm

theorem someTime_nil (timely : List Event -> Event -> Prop) : ¬ SomeTime timely [] := by
  rw [someTime_iff, not_not]
  exact allReady_nil _

theorem someTime_concat {timely : List Event -> Event -> Prop} {events : List Event}
    {last : Event} :
    SomeTime timely (events ++ [last]) <-> SomeTime timely events ∨ timely events last := by
  rw [someTime_iff, someTime_iff, allReady_concat, not_and_or, not_not]

/-- The state after each history, and the events that return. -/
structure Describes (step : State -> Event -> Except Error State)
    (described : List Event -> State) (ready : List Event -> Event -> Prop) : Prop where
  proceeds : forall history event, ready history event ->
    step (described history) event = .ok (described (history ++ [event]))
  fails : forall history event, ¬ ready history event ->
    Exists fun error : Error => step (described history) event = .error error

/-- A run returns exactly if each event was ready, and it then leaves the state of its
whole history. -/
theorem Describes.run {step : State -> Event -> Except Error State}
    {described : List Event -> State} {ready : List Event -> Event -> Prop}
    (describes : Describes step described ready) (events : List Event) :
    (AllReady ready events -> events.foldlM step (described []) = .ok (described events)) ∧
      (¬ AllReady ready events ->
        Exists fun error : Error => events.foldlM step (described []) = .error error) := by
  induction events using List.reverseRecOn with
  | nil => exact ⟨fun _ => rfl, fun never => absurd (allReady_nil ready) never⟩
  | append_singleton events last inductionHypothesis =>
      rw [List.foldlM_append, allReady_concat]
      by_cases all : AllReady ready events
      · have final : [last].foldlM step (described events) = step (described events) last := by
          rw [List.foldlM_cons]
          cases step (described events) last with
          | error error => rfl
          | ok state => rfl
        rw [inductionHypothesis.1 all]
        change (_ -> [last].foldlM step (described events) = _) ∧
          (_ -> Exists fun error : Error => [last].foldlM step (described events) = .error error)
        rw [final]
        exact ⟨fun both => describes.proceeds events last both.2,
          fun never => describes.fails events last fun ready => never ⟨all, ready⟩⟩
      · rcases inductionHypothesis.2 all with ⟨error, failed⟩
        rw [failed]
        exact ⟨fun both => absurd both.1 all, fun _ => ⟨error, rfl⟩⟩

/-- When nothing raises an exception, it is enough to look at histories in which no event
comes twice. -/
theorem foldl_described {step : State -> Event -> State} {described : List Event -> State}
    (fits : forall history event, (history ++ [event]).Nodup ->
      step (described history) event = described (history ++ [event]))
    {events : List Event} (once : events.Nodup) :
    events.foldl step (described []) = described events := by
  induction events using List.reverseRecOn with
  | nil => rfl
  | append_singleton events last inductionHypothesis =>
      rw [List.foldl_append, inductionHypothesis (List.nodup_append.mp once).1]
      exact fits events last once

/-- The first event comes before the second. -/
def Precedes (first second : Event) (events : List Event) : Prop :=
  SomeTime (fun before event => event = second ∧ first ∈ before) events

instance [DecidableEq Event] (first second : Event) (events : List Event) :
    Decidable (Precedes first second events) :=
  inferInstanceAs (Decidable (SomeTime (fun before event => event = second ∧ first ∈ before) events))

theorem precedes_concat {first second last : Event} {events : List Event} :
    Precedes first second (events ++ [last]) <->
      Precedes first second events ∨ last = second ∧ first ∈ events :=
  someTime_concat

theorem Precedes.second_mem {first second : Event} {events : List Event}
    (precedes : Precedes first second events) : second ∈ events := by
  rcases precedes with ⟨before, event, after, rfl, rfl, _⟩
  exact List.mem_append_right _ List.mem_cons_self

theorem Precedes.first_mem {first second : Event} {events : List Event}
    (precedes : Precedes first second events) : first ∈ events := by
  rcases precedes with ⟨before, event, after, rfl, rfl, earlier⟩
  exact List.mem_append_left _ earlier

end Library
end CrashPython

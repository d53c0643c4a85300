import Mathlib.Data.List.Nodup

namespace CrashPython
namespace Library

/-!
Generators run to exhaustion.

A generator with a loop is presented by one loop step: from the loop-carried
variables it emits some events and either proceeds to the next iteration or
stops, normally or by raising.  Nothing in a step forces the loop to end, so a
run carries fuel, and the result is `none` exactly when the fuel is used up
before the step function stops.

The lemmas below separate a run into its proceeding prefix and its last step.
An invariant of the loop is then an invariant of `advance`, and every question
about how a run can end is a question about a single step.
-/

/-- How a loop ends: the generator returns, or an exception leaves it. -/
inductive Ending (Error : Type) where
  | completed
  | raised (error : Error)
deriving DecidableEq, Repr

/-- The exception of an ending, if it is one. -/
def Ending.exception {Error : Type} : Ending Error -> Option Error
  | .completed => none
  | .raised error => some error

/-- The same ending, seen from a caller with exceptions of its own. -/
def Ending.map {Error Failure : Type} (failure : Error -> Failure) : Ending Error -> Ending Failure
  | .completed => .completed
  | .raised error => .raised (failure error)

/-- What one iteration does with the loop-carried variables. -/
inductive Next (State Error : Type) where
  | proceed (state : State)
  | stop (ending : Ending Error)

/-- The observable result of an exhausted generator. -/
structure Run (Event Error : Type) where
  events : List Event
  ending : Ending Error
deriving DecidableEq, Repr

namespace Run

variable {Event Error : Type}

/-- Put the events of an earlier part of the same generator in front. -/
def after (events : List Event) (run : Run Event Error) : Run Event Error :=
  ⟨events ++ run.events, run.ending⟩

/-- One generator after another, unless the first raises an exception. -/
def followedBy (first second : Run Event Error) : Run Event Error :=
  match first.ending with
  | .completed => second.after first.events
  | .raised _ => first

/-- Generators one after another, as far as they complete. -/
def chain (runs : List (Run Event Error)) : Run Event Error :=
  runs.foldr followedBy ⟨[], .completed⟩

theorem followedBy_of_completed {first : Run Event Error} (completed : first.ending = .completed)
    (second : Run Event Error) : first.followedBy second = second.after first.events := by
  simp only [followedBy]
  rw [completed]

theorem followedBy_of_raised {first : Run Event Error} {error : Error}
    (raised : first.ending = .raised error) (second : Run Event Error) :
    first.followedBy second = first := by
  simp only [followedBy]
  rw [raised]

theorem followedBy_assoc (first second third : Run Event Error) :
    (first.followedBy second).followedBy third = first.followedBy (second.followedBy third) := by
  rcases first with ⟨events, ending⟩
  cases ending with
  | raised error => rfl
  | completed =>
      rcases second with ⟨later, ending⟩
      cases ending with
      | raised error => rfl
      | completed => exact congrArg (Run.mk · _) (List.append_assoc _ _ _)

theorem filterMap_after {Other : Type} (shown : Event -> Option Other) (events : List Event)
    (run : Run Event Error) : (run.after events).events.filterMap shown =
      events.filterMap shown ++ run.events.filterMap shown :=
  List.filterMap_append

theorem mem_followedBy {first second : Run Event Error} {event : Event}
    (member : event ∈ (first.followedBy second).events) : event ∈ first.events ∨ event ∈ second.events := by
  cases ended : first.ending with
  | completed =>
      rw [followedBy_of_completed ended] at member
      exact List.mem_append.mp member
  | raised error =>
      rw [followedBy_of_raised ended] at member
      exact .inl member

/-- What the chain emits is emitted by one of the generators. -/
theorem mem_chain {runs : List (Run Event Error)} {event : Event} (member : event ∈ (chain runs).events) :
    Exists fun run : Run Event Error => run ∈ runs ∧ event ∈ run.events := by
  induction runs with
  | nil => exact False.elim (List.not_mem_nil member)
  | cons run rest inductionHypothesis =>
      have here : event ∈ (run.followedBy (chain rest)).events := member
      cases ended : run.ending with
      | completed =>
          rw [followedBy_of_completed ended] at here
          rcases List.mem_append.mp here with first | later
          · exact ⟨run, List.mem_cons_self, first⟩
          · rcases inductionHypothesis later with ⟨other, listed, emits⟩
            exact ⟨other, List.mem_cons_of_mem _ listed, emits⟩
      | raised error =>
          rw [followedBy_of_raised ended] at here
          exact ⟨run, List.mem_cons_self, here⟩

/-- An exception of the chain is that of one of the generators. -/
theorem chain_raised {runs : List (Run Event Error)} {error : Error}
    (raised : (chain runs).ending = .raised error) :
    Exists fun run : Run Event Error => run ∈ runs ∧ run.ending = .raised error := by
  induction runs with
  | nil => cases raised
  | cons run rest inductionHypothesis =>
      have here : (run.followedBy (chain rest)).ending = .raised error := raised
      cases ended : run.ending with
      | completed =>
          rw [followedBy_of_completed ended] at here
          rcases inductionHypothesis here with ⟨other, listed, fails⟩
          exact ⟨other, List.mem_cons_of_mem _ listed, fails⟩
      | raised other =>
          rw [followedBy_of_raised ended] at here
          exact ⟨run, List.mem_cons_self, here⟩

/-- A chain that completes has completed all generators. -/
theorem chain_completed {runs : List (Run Event Error)} (completed : (chain runs).ending = .completed)
    {run : Run Event Error} (member : run ∈ runs) :
    run.ending = .completed ∧ forall event, event ∈ run.events -> event ∈ (chain runs).events := by
  induction runs with
  | nil => exact False.elim (List.not_mem_nil member)
  | cons first rest inductionHypothesis =>
      have shape : chain (first :: rest) = first.followedBy (chain rest) := rfl
      cases ended : first.ending with
      | raised error =>
          rw [shape, followedBy_of_raised ended] at completed
          cases ended.symm.trans completed
      | completed =>
          rw [shape, followedBy_of_completed ended] at completed ⊢
          rcases List.mem_cons.mp member with rfl | later
          · exact ⟨ended, fun event emits => List.mem_append_left _ emits⟩
          · rcases inductionHypothesis completed later with ⟨done, emits⟩
            exact ⟨done, fun event inside => List.mem_append_right _ (emits event inside)⟩

/-- Generators that all complete emit all their events. -/
theorem chain_of_completed {runs : List (Run Event Error)}
    (completed : forall run, run ∈ runs -> run.ending = .completed) :
    chain runs = ⟨runs.flatMap Run.events, .completed⟩ := by
  induction runs with
  | nil => rfl
  | cons first rest inductionHypothesis =>
      have later := inductionHypothesis fun run member =>
        completed run (List.mem_cons_of_mem first member)
      change first.followedBy (chain rest) = _
      rw [followedBy_of_completed (completed first List.mem_cons_self), later]
      rfl

/-- A generator that first needs a value. -/
def whenRead {Value : Type} (value : Except Error Value) (rest : Value -> Run Event Error) : Run Event Error :=
  match value with
  | .error error => ⟨[], .raised error⟩
  | .ok value => rest value

theorem whenRead_completed {Value : Type} {value : Except Error Value} {rest : Value -> Run Event Error}
    (completed : (whenRead value rest).ending = .completed) :
    Exists fun found : Value => value = .ok found ∧ whenRead value rest = rest found ∧
      (rest found).ending = .completed := by
  cases value with
  | error error => cases completed
  | ok found => exact ⟨found, rfl, rfl, completed⟩

/-- A loop over a generator whose body is a generator.  An exception of the generator that the
loop is over goes through the loop. -/
def forEach {Other Failure : Type} (failure : Error -> Failure) (body : Event -> Run Other Failure)
    (run : Run Event Error) : Run Other Failure :=
  (chain (run.events.map body)).followedBy ⟨[], run.ending.map failure⟩

/-- A loop over a generator that carries a value along. -/
def folded {Value : Type} (step : Value -> Event -> Except Error Value) (start : Value)
    (run : Run Event Error) : Except Error Value := do
  let value ← run.events.foldlM step start
  match run.ending with
  | .completed => .ok value
  | .raised error => .error error

/-- A generator that completes and whose events are all of a kind. -/
def Clean (good : Event -> Prop) (run : Run Event Error) : Prop :=
  run.ending = .completed ∧ forall event, event ∈ run.events -> good event

theorem clean_followedBy {good : Event -> Prop} {first second : Run Event Error} :
    (first.followedBy second).Clean good <-> first.Clean good ∧ second.Clean good := by
  cases ended : first.ending with
  | raised error =>
      rw [followedBy_of_raised ended]
      constructor
      · intro clean
        cases ended.symm.trans clean.1
      · intro both
        exact both.1
  | completed =>
      rw [followedBy_of_completed ended]
      constructor
      · rintro ⟨completed, all⟩
        rcases List.forall_mem_append.mp all with ⟨here, later⟩
        exact ⟨⟨ended, here⟩, completed, later⟩
      · rintro ⟨⟨_, here⟩, completed, later⟩
        exact ⟨completed, List.forall_mem_append.mpr ⟨here, later⟩⟩

theorem clean_chain {good : Event -> Prop} {runs : List (Run Event Error)} :
    (chain runs).Clean good <-> forall run, run ∈ runs -> run.Clean good := by
  induction runs with
  | nil =>
      exact ⟨fun _ run member => False.elim (List.not_mem_nil member),
        fun _ => ⟨rfl, fun event member => False.elim (List.not_mem_nil member)⟩⟩
  | cons run rest inductionHypothesis =>
      change (run.followedBy (chain rest)).Clean good <-> _
      rw [clean_followedBy, inductionHypothesis, List.forall_mem_cons]

/-- A loop over a generator that returns as soon as its body has an answer. -/
def firstOf {Value Failure : Type} (failure : Error -> Failure)
    (body : Event -> Except Failure (Option Value)) (run : Run Event Error) : Except Failure (Option Value) :=
  run.events.foldr
    (fun event rest =>
      match body event with
      | .error error => .error error
      | .ok (some value) => .ok (some value)
      | .ok none => rest)
    (match run.ending with
    | .completed => .ok none
    | .raised error => .error (failure error))

/-- A loop whose generator completes has the first answer. -/
theorem firstOf_of_answers {Value Failure : Type} {failure : Error -> Failure}
    {body : Event -> Except Failure (Option Value)} {answer : Event -> Option Value} {events : List Event}
    (answers : forall event, event ∈ events -> body event = .ok (answer event)) :
    (⟨events, .completed⟩ : Run Event Error).firstOf failure body = .ok (events.findSome? answer) := by
  induction events with
  | nil => rfl
  | cons event rest inductionHypothesis =>
      have later := inductionHypothesis fun other member => answers other (List.mem_cons_of_mem event member)
      have here := answers event List.mem_cons_self
      rw [List.findSome?_cons]
      simp only [firstOf, List.foldr_cons] at later ⊢
      rw [here]
      cases answer event with
      | some value => rfl
      | none => exact later

variable {Other Failure : Type} {failure : Error -> Failure} {body : Event -> Run Other Failure}

/-- A loop whose generator and bodies complete emits the events of all bodies. -/
theorem forEach_of_completed {events : List Event}
    (completed : forall event, event ∈ events -> (body event).ending = .completed) :
    (⟨events, .completed⟩ : Run Event Error).forEach failure body =
      ⟨events.flatMap fun event => (body event).events, .completed⟩ := by
  have bodies : forall run, run ∈ events.map body -> run.ending = .completed := by
    intro run member
    rcases List.mem_map.mp member with ⟨event, listed, same⟩
    rw [← same]
    exact completed event listed
  simp only [forEach]
  rw [chain_of_completed bodies, followedBy_of_completed rfl, List.flatMap_map]
  exact congrArg (Run.mk · _) (List.append_nil _)

/-- A loop whose bodies emit known events and complete. -/
theorem forEach_emits {events : List Event} {emitted : Event -> List Other}
    (bodies : forall event, event ∈ events -> body event = ⟨emitted event, .completed⟩) :
    (⟨events, .completed⟩ : Run Event Error).forEach failure body =
      ⟨events.flatMap emitted, .completed⟩ := by
  rw [forEach_of_completed]
  · exact congrArg (Run.mk · _) (List.flatMap_congr fun event member => by rw [bodies event member])
  · intro event member
    rw [bodies event member]

/-- A loop is clean if its generator completes and its bodies are clean. -/
theorem clean_forEach {good : Other -> Prop} {run : Run Event Error} :
    (run.forEach failure body).Clean good <->
      run.ending = .completed ∧ forall event, event ∈ run.events -> (body event).Clean good := by
  have last : (⟨[], run.ending.map failure⟩ : Run Other Failure).Clean good <-> run.ending = .completed := by
    constructor
    · intro clean
      cases ended : run.ending with
      | completed => rfl
      | raised error =>
          have completed := clean.1
          rw [ended] at completed
          cases completed
    · intro completed
      rw [completed]
      exact ⟨rfl, fun event member => False.elim (List.not_mem_nil member)⟩
  rw [forEach, clean_followedBy, clean_chain, List.forall_mem_map, last, and_comm]

/-- In a loop that completes the generator and all bodies complete. -/
theorem forEach_completed {run : Run Event Error} (completed : (run.forEach failure body).ending = .completed) :
    run.ending = .completed ∧
      forall event, event ∈ run.events -> (body event).ending = .completed := by
  simp only [forEach] at completed
  cases bodies : (chain (run.events.map body)).ending with
  | raised error =>
      rw [followedBy_of_raised bodies, bodies] at completed
      cases completed
  | completed =>
      rw [followedBy_of_completed bodies] at completed
      constructor
      · cases ended : run.ending with
        | completed => rfl
        | raised error =>
            change run.ending.map failure = _ at completed
            rw [ended] at completed
            cases completed
      · intro event member
        exact (chain_completed bodies (List.mem_map_of_mem member)).1

theorem folded_of_completed {Value : Type} {step : Value -> Event -> Except Error Value}
    {start : Value} {events : List Event} :
    (⟨events, .completed⟩ : Run Event Error).folded step start = events.foldlM step start := by
  change (events.foldlM step start >>= fun value => Except.ok value) = _
  cases events.foldlM step start <;> rfl

/-- A value that is carried to the end comes from a generator that completes. -/
theorem completed_of_folded {Value : Type} {step : Value -> Event -> Except Error Value}
    {run : Run Event Error} {start result : Value} (carried : run.folded step start = .ok result) :
    run.ending = .completed ∧ run.events.foldlM step start = .ok result := by
  rcases run with ⟨events, ending⟩
  cases ending with
  | completed => exact ⟨rfl, folded_of_completed.symm.trans carried⟩
  | raised error =>
      change (events.foldlM step start >>= fun _ => Except.error error) = _ at carried
      cases all : events.foldlM step start with
      | error failed =>
          rw [all] at carried
          cases carried
      | ok value =>
          rw [all] at carried
          cases carried

theorem followedBy_completed {first second : Run Event Error}
    (completed : (first.followedBy second).ending = .completed) :
    first.ending = .completed ∧ second.ending = .completed := by
  cases ended : first.ending with
  | completed =>
      rw [followedBy_of_completed ended] at completed
      exact ⟨rfl, completed⟩
  | raised error =>
      rw [followedBy_of_raised ended, ended] at completed
      cases completed

end Run

/-- A generator completes, and it emits just the selected events, each of them once. -/
structure Lists {Event Error Key : Type} (key : Event -> Key) (selected : Event -> Prop)
    (run : Run Event Error) : Prop where
  completed : run.ending = .completed
  once : (run.events.map key).Nodup
  exactly : forall event, event ∈ run.events <-> selected event

namespace Lists

variable {Event Error Other Failure Key : Type} {key : Event -> Key} {selected : Event -> Prop}

theorem nothing (none : forall event, ¬ selected event) :
    Lists key selected (⟨[], .completed⟩ : Run Event Error) where
  completed := rfl
  once := List.nodup_nil
  exactly := fun event => ⟨fun member => False.elim (List.not_mem_nil member),
    fun chosen => False.elim (none event chosen)⟩

theorem congr {same : Event -> Prop} {run : Run Event Error} (lists : Lists key selected run)
    (iff : forall event, selected event <-> same event) : Lists key same run where
  completed := lists.completed
  once := lists.once
  exactly := fun event => (lists.exactly event).trans (iff event)

/-- Two generators that emit different events. -/
theorem followedBy {later : Event -> Prop} {first second : Run Event Error}
    (left : Lists key selected first) (right : Lists key later second)
    (apart : forall event other, selected event -> later other -> key event ≠ key other) :
    Lists key (fun event => selected event ∨ later event) (first.followedBy second) := by
  rw [Run.followedBy_of_completed left.completed]
  refine ⟨right.completed, ?_, ?_⟩
  · change ((first.events ++ second.events).map key).Nodup
    rw [List.map_append]
    refine List.nodup_append.mpr ⟨left.once, right.once, ?_⟩
    intro one here two there
    rcases List.mem_map.mp here with ⟨event, member, same⟩
    rcases List.mem_map.mp there with ⟨other, listed, equal⟩
    rw [← same, ← equal]
    exact apart event other ((left.exactly event).mp member) ((right.exactly other).mp listed)
  · intro event
    change event ∈ first.events ++ second.events <-> _
    rw [List.mem_append, left.exactly, right.exactly]

/-- A loop whose bodies emit different events for different events of its generator. -/
theorem forEach {Index : Type} {index : Other -> Index} {chosen : Other -> Prop}
    {failure : Failure -> Error} {body : Other -> Run Event Error} {each : Other -> Event -> Prop}
    {run : Run Other Failure} (outer : Lists index chosen run)
    (inner : forall other, chosen other -> Lists key (each other) (body other))
    (apart : forall one two, chosen one -> chosen two -> index one ≠ index two ->
      forall event other, each one event -> each two other -> key event ≠ key other) :
    Lists key (fun event => Exists fun other : Other => chosen other ∧ each other event)
      (run.forEach failure body) := by
  rcases run with ⟨events, ending⟩
  have completed : ending = .completed := outer.completed
  subst completed
  have member : forall {other}, other ∈ events -> chosen other := (outer.exactly _).mp
  rw [Run.forEach_of_completed fun other listed => (inner other (member listed)).completed]
  refine ⟨rfl, ?_, ?_⟩
  · change ((events.flatMap fun other => (body other).events).map key).Nodup
    rw [List.map_flatMap]
    refine List.nodup_flatMap.mpr ⟨fun other listed => (inner other (member listed)).once, ?_⟩
    have different := List.pairwise_map.mp outer.once
    refine List.Pairwise.imp_of_mem ?_ different
    intro one two listedOne listedTwo differ value inOne inTwo
    rcases List.mem_map.mp inOne with ⟨event, here, same⟩
    rcases List.mem_map.mp inTwo with ⟨other, there, equal⟩
    refine apart one two (member listedOne) (member listedTwo) differ event other
      (((inner one (member listedOne)).exactly event).mp here)
      (((inner two (member listedTwo)).exactly other).mp there) (same.trans equal.symm)
  · intro event
    change event ∈ events.flatMap (fun other => (body other).events) <-> _
    constructor
    · intro emitted
      rcases List.mem_flatMap.mp emitted with ⟨other, listed, here⟩
      exact ⟨other, member listed, ((inner other (member listed)).exactly event).mp here⟩
    · rintro ⟨other, picked, here⟩
      exact List.mem_flatMap.mpr ⟨other, (outer.exactly other).mpr picked,
        ((inner other picked).exactly event).mpr here⟩

end Lists

/-- A computation with fuel has this result as soon as the fuel is enough. -/
def Settles {Result : Type} (computation : Nat -> Option Result) (result : Result) : Prop :=
  Exists fun bound : Nat => forall fuel, bound ≤ fuel -> computation fuel = some result

section Settling

variable {Result : Type} {computation : Nat -> Option Result} {result : Result}

theorem Settles.now (answers : forall fuel, computation (fuel + 1) = some result) :
    Settles computation result := by
  refine ⟨1, fun fuel enough => ?_⟩
  rcases fuel with _ | fuel
  · exact False.elim (Nat.not_succ_le_zero _ enough)
  · exact answers fuel

/-- A first step of a computation that settles afterwards. -/
theorem Settles.later {rest : Nat -> Option Result} (settled : Settles rest result)
    (steps : forall fuel, computation (fuel + 1) = rest fuel) : Settles computation result := by
  rcases settled with ⟨bound, answers⟩
  refine ⟨bound + 1, fun fuel enough => ?_⟩
  rcases fuel with _ | fuel
  · exact False.elim (Nat.not_succ_le_zero _ enough)
  · rw [steps]
    exact answers fuel (Nat.le_of_succ_le_succ enough)

/-- A step of a computation asks another one first, and settles with the rest. -/
theorem Settles.andThen {First Rest : Type} {first : Nat -> Option First} {rest : Nat -> Option Rest}
    {answer : First} {outcome : Rest} (one : Settles first answer) (two : Settles rest outcome)
    (steps : forall fuel, first fuel = some answer -> rest fuel = some outcome ->
      computation (fuel + 1) = some result) : Settles computation result := by
  rcases one with ⟨bound, answers⟩
  rcases two with ⟨later, finishes⟩
  refine ⟨bound + later + 1, fun fuel enough => ?_⟩
  rcases fuel with _ | fuel
  · exact False.elim (Nat.not_succ_le_zero _ enough)
  · exact steps fuel (answers fuel (by omega)) (finishes fuel (by omega))

theorem Settles.congr {other : Result} (settled : Settles computation result)
    (same : result = other) : Settles computation other := by
  rw [← same]
  exact settled

/-- A computation settles with one result. -/
theorem Settles.unique {other : Result} (one : Settles computation result)
    (two : Settles computation other) : result = other := by
  rcases one with ⟨bound, answers⟩
  rcases two with ⟨later, finishes⟩
  have first := answers (bound + later) (Nat.le_add_right _ _)
  exact Option.some.inj (first.symm.trans (finishes (bound + later) (Nat.le_add_left _ _)))

theorem Settles.map {Other : Type} (settled : Settles computation result) (change : Result -> Other) :
    Settles (fun fuel => (computation fuel).map change) (change result) := by
  rcases settled with ⟨bound, answers⟩
  exact ⟨bound, fun fuel enough => congrArg (Option.map change) (answers fuel enough)⟩

end Settling

/-- Generators with fuel, one after another, until one raises an exception. -/
def Run.sequence {Event Error : Type} : List (Option (Run Event Error)) -> Option (Run Event Error)
  | [] => some ⟨[], .completed⟩
  | none :: _ => none
  | some run :: rest =>
      match run.ending with
      | .completed => (Run.sequence rest).map (Run.after run.events)
      | .raised _ => some run

/-- A sequence of generators that complete emits all their events. -/
theorem Settles.sequence {Item Event Error : Type} {items : List Item}
    {computation : Item -> Nat -> Option (Run Event Error)} {events : Item -> List Event}
    (each : forall item, item ∈ items -> Settles (computation item) ⟨events item, .completed⟩) :
    Settles (fun fuel => Run.sequence (items.map fun item => computation item fuel))
      ⟨items.flatMap events, .completed⟩ := by
  induction items with
  | nil => exact ⟨0, fun fuel _ => rfl⟩
  | cons item rest inductionHypothesis =>
      rcases each item List.mem_cons_self with ⟨bound, answers⟩
      rcases inductionHypothesis (fun other member => each other (List.mem_cons_of_mem item member))
        with ⟨later, finishes⟩
      refine ⟨bound + later, fun fuel enough => ?_⟩
      have first := answers fuel (by omega)
      have second := finishes fuel (by omega)
      simp only [List.map_cons, first, Run.sequence, second, Option.map_some, Run.after,
        List.flatMap_cons]

variable {State Event Error : Type}

/-- Drive a loop step until it stops or the fuel runs out. -/
def exhaust (step : State -> List Event × Next State Error) :
    Nat -> State -> Option (Run Event Error)
  | 0, _ => none
  | fuel + 1, state =>
      match step state with
      | (events, .stop ending) => some ⟨events, ending⟩
      | (events, .proceed next) => (exhaust step fuel next).map (Run.after events)

/-- Exactly `count` proceeding iterations, with the events they emit. -/
def advance (step : State -> List Event × Next State Error) :
    Nat -> State -> Option (List Event × State)
  | 0, state => some ([], state)
  | count + 1, state =>
      (advance step count state).bind fun reached =>
        match step reached.2 with
        | (_, .stop _) => none
        | (events, .proceed next) => some (reached.1 ++ events, next)

section Exhaustion

variable {step : State -> List Event × Next State Error}

/-- One more proceeding iteration at the end of a proceeding prefix. -/
theorem advance_succ_of_proceed {count : Nat} {start state next : State}
    {before events : List Event} (reached : advance step count start = some (before, state))
    (proceeds : step state = (events, .proceed next)) :
    advance step (count + 1) start = some (before ++ events, next) := by
  simp only [advance, reached, Option.bind_some, proceeds]

/-- The last iteration of a nonempty proceeding prefix. -/
theorem advance_succ_inv {count : Nat} {start next : State} {events : List Event}
    (reached : advance step (count + 1) start = some (events, next)) :
    Exists fun before : List Event => Exists fun state : State => Exists fun emitted : List Event =>
      advance step count start = some (before, state) ∧
        step state = (emitted, .proceed next) ∧ events = before ++ emitted := by
  simp only [advance] at reached
  rcases Option.bind_eq_some_iff.mp reached with ⟨⟨before, state⟩, earlier, last⟩
  rcases iteration : step state with ⟨emitted, outcome⟩
  simp only [iteration] at last
  cases outcome with
  | stop ending => cases last
  | proceed following =>
      simp only [Option.some.injEq, Prod.mk.injEq] at last
      exact ⟨before, state, emitted, earlier, last.2 ▸ iteration, last.1.symm⟩

/-- The first iteration of a nonempty proceeding prefix. -/
theorem advance_cons {state next : State} {events : List Event}
    (proceeds : step state = (events, .proceed next)) (count : Nat) :
    advance step (count + 1) state =
      (advance step count next).map fun reached => (events ++ reached.1, reached.2) := by
  induction count with
  | zero => simp only [advance, Option.bind_some, proceeds, List.nil_append, List.append_nil,
      Option.map_some]
  | succ count inductionHypothesis =>
      rw [advance, inductionHypothesis, advance]
      cases advance step count next with
      | none => rfl
      | some reached =>
          simp only [Option.map_some, Option.bind_some]
          rcases step reached.2 with ⟨emitted, outcome⟩
          cases outcome with
          | stop ending => rfl
          | proceed following => simp only [Option.map_some, List.append_assoc]

/-- A finished run is a proceeding prefix followed by one stopping step. -/
theorem exhaust_inv {fuel : Nat} {start : State} {run : Run Event Error}
    (finished : exhaust step fuel start = some run) :
    Exists fun count : Nat => Exists fun before : List Event => Exists fun state : State =>
      Exists fun emitted : List Event =>
        advance step count start = some (before, state) ∧
          step state = (emitted, .stop run.ending) ∧ run.events = before ++ emitted := by
  induction fuel generalizing start run with
  | zero => cases finished
  | succ fuel inductionHypothesis =>
      rcases iteration : step start with ⟨events, outcome⟩
      simp only [exhaust, iteration] at finished
      cases outcome with
      | stop ending =>
          cases finished
          exact ⟨0, [], start, events, rfl, iteration, rfl⟩
      | proceed next =>
          rcases Option.map_eq_some_iff.mp finished with ⟨rest, restFinished, same⟩
          rcases inductionHypothesis restFinished with
            ⟨count, before, state, emitted, reached, stops, shape⟩
          subst same
          refine ⟨count + 1, events ++ before, state, emitted, ?_, stops, ?_⟩
          · rw [advance_cons iteration, reached, Option.map_some]
          · simp only [Run.after, shape, List.append_assoc]

/-- Conversely, a stopping step after `count` proceeding iterations is the
result for every fuel above `count`. -/
theorem exhaust_of_advance {count fuel : Nat} {start state : State}
    {before emitted : List Event} {ending : Ending Error}
    (reached : advance step count start = some (before, state))
    (stops : step state = (emitted, .stop ending)) (enough : count < fuel) :
    exhaust step fuel start = some ⟨before ++ emitted, ending⟩ := by
  induction count generalizing fuel start before with
  | zero =>
      cases reached
      rcases fuel with _ | fuel
      · exact False.elim (Nat.not_lt_zero _ enough)
      · simp only [exhaust, stops, List.nil_append]
  | succ count inductionHypothesis =>
      rcases fuel with _ | fuel
      · exact False.elim (Nat.not_lt_zero _ enough)
      · rcases iteration : step start with ⟨events, outcome⟩
        cases outcome with
        | stop ending =>
            have impossible : advance step (count + 1) start = none := by
              clear reached inductionHypothesis enough
              induction count with
              | zero => simp only [advance, Option.bind_some, iteration]
              | succ count earlier => rw [advance, earlier, Option.bind_none]
            rw [impossible] at reached
            cases reached
        | proceed next =>
            rw [advance_cons iteration] at reached
            rcases Option.map_eq_some_iff.mp reached with ⟨⟨tail, last⟩, rest, same⟩
            simp only [Prod.mk.injEq] at same
            rcases same with ⟨rfl, rfl⟩
            simp only [exhaust, iteration,
              inductionHypothesis rest (Nat.lt_of_succ_lt_succ enough), Option.map_some,
              Run.after, List.append_assoc]

/-- A loop that never proceeds `bound` times finishes on any larger fuel. -/
theorem exhaust_of_bound {bound : Nat} {start : State}
    (bounded : advance step bound start = none) :
    Exists fun run : Run Event Error => forall fuel, bound ≤ fuel ->
      exhaust step fuel start = some run := by
  induction bound with
  | zero => cases bounded
  | succ bound inductionHypothesis =>
      cases reached : advance step bound start with
      | none =>
          rcases inductionHypothesis reached with ⟨run, finishes⟩
          exact ⟨run, fun fuel enough => finishes fuel (Nat.le_of_succ_le enough)⟩
      | some prefixState =>
          rcases prefixState with ⟨before, state⟩
          rcases iteration : step state with ⟨emitted, outcome⟩
          cases outcome with
          | stop ending =>
              exact ⟨⟨before ++ emitted, ending⟩, fun fuel enough =>
                exhaust_of_advance reached iteration enough⟩
          | proceed next =>
              rw [advance_succ_of_proceed reached iteration] at bounded
              cases bounded

/-- The loop rule: what the first state satisfies and every proceeding
iteration preserves holds after any number of iterations. -/
theorem advance_invariant (invariant : Nat -> List Event -> State -> Prop) {start : State}
    (initially : invariant 0 [] start)
    (preserved : forall count before state events next, invariant count before state ->
      step state = (events, .proceed next) -> invariant (count + 1) (before ++ events) next)
    {count : Nat} {events : List Event} {state : State}
    (reached : advance step count start = some (events, state)) : invariant count events state := by
  induction count generalizing events state with
  | zero =>
      cases reached
      exact initially
  | succ count inductionHypothesis =>
      rcases advance_succ_inv reached with ⟨before, earlier, emitted, prior, proceeds, shape⟩
      rw [shape]
      exact preserved count before earlier emitted state (inductionHypothesis prior) proceeds

end Exhaustion
end Library
end CrashPython

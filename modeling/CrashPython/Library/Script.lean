import CrashPython.Library.Frame

namespace CrashPython
namespace Library

/-!
Scripts of procedures that read unchanging memory.

A procedure often mixes two things: reads from memory that does not change, and
updates of a state of its own.  Where the reads do not depend on the state, the
procedure has a script: the actions it takes up to its first failing read, and
the way it ends.  A script can be worked out from memory alone.  It is a program
of the same shape as the procedure, in which every update is noted instead of
made.

`Enacts` connects a procedure to its script.  The updates are compared in a view
of the state, so that one script serves coarse and fine views alike; a step that
the view does not show needs no action.
-/

variable {Error Action State View Value Result Outcome Item Found : Type}

/-- Reads that succeed one after the other. -/
theorem except_bind_ok {read : Except Error Value}
    {next : Value -> Except Error Result} {result : Result} :
    (read >>= next) = .ok result <->
      Exists fun value : Value => read = .ok value ∧ next value = .ok result := by
  cases read with
  | error error =>
      constructor
      · exact nofun
      · rintro ⟨_, impossible, _⟩
        cases impossible
  | ok value =>
      constructor
      · exact fun continued => ⟨value, rfl, continued⟩
      · rintro ⟨_, same, continued⟩
        cases same
        exact continued

theorem except_bind_error {read : Except Error Value}
    {next : Value -> Except Error Result} {error : Error} :
    (read >>= next) = .error error <-> read = .error error ∨
      Exists fun value : Value => read = .ok value ∧ next value = .error error := by
  cases read with
  | error failure =>
      constructor
      · intro failed
        exact .inl (congrArg Except.error (Except.error.inj failed))
      · rintro (same | ⟨_, impossible, _⟩)
        · exact congrArg Except.error (Except.error.inj same)
        · cases impossible
  | ok value =>
      constructor
      · intro failed
        exact .inr ⟨value, rfl, failed⟩
      · rintro (impossible | ⟨_, same, failed⟩)
        · cases impossible
        · cases same
          exact failed

/-- Actions and an ending. -/
structure Script (Error Action Value : Type) where
  actions : List Action
  ending : Except Error Value

namespace Script

instance : Monad (Script Error Action) where
  pure value := ⟨[], .ok value⟩
  bind script continuation :=
    match script.ending with
    | .error error => ⟨script.actions, .error error⟩
    | .ok value => ⟨script.actions ++ (continuation value).actions, (continuation value).ending⟩

/-- Note one action. -/
def act (action : Action) : Script Error Action PUnit :=
  ⟨[action], .ok ⟨⟩⟩

/-- Read from memory. -/
def reading (read : Except Error Value) : Script Error Action Value :=
  ⟨[], read⟩

@[simp] theorem pure_actions (value : Value) : (pure value : Script Error Action Value).actions = [] :=
  rfl

@[simp] theorem pure_ending (value : Value) :
    (pure value : Script Error Action Value).ending = .ok value :=
  rfl

@[simp] theorem act_actions (action : Action) :
    (act action : Script Error Action PUnit).actions = [action] :=
  rfl

@[simp] theorem act_ending (action : Action) :
    (act action : Script Error Action PUnit).ending = .ok ⟨⟩ :=
  rfl

@[simp] theorem reading_actions (read : Except Error Value) :
    (reading read : Script Error Action Value).actions = [] :=
  rfl

@[simp] theorem reading_ending (read : Except Error Value) :
    (reading read : Script Error Action Value).ending = read :=
  rfl

theorem bind_of_ok {script : Script Error Action Value} {value : Value}
    (ended : script.ending = .ok value) (continuation : Value -> Script Error Action Result) :
    script >>= continuation =
      ⟨script.actions ++ (continuation value).actions, (continuation value).ending⟩ := by
  change (match script.ending with | .error error => _ | .ok value => _) = _
  rw [ended]

theorem bind_of_error {script : Script Error Action Value} {error : Error}
    (ended : script.ending = .error error) (continuation : Value -> Script Error Action Result) :
    script >>= continuation = ⟨script.actions, .error error⟩ := by
  change (match script.ending with | .error error => _ | .ok value => _) = _
  rw [ended]

theorem bind_assoc {Middle : Type} (script : Script Error Action Value)
    (next : Value -> Script Error Action Middle) (last : Middle -> Script Error Action Result) :
    script >>= next >>= last = script >>= fun value => next value >>= last := by
  cases ended : script.ending with
  | error error =>
      rw [bind_of_error ended, bind_of_error ended]
      rfl
  | ok value =>
      rw [bind_of_ok ended, bind_of_ok ended]
      cases continued : (next value).ending with
      | error error =>
          rw [bind_of_error continued, bind_of_error rfl]
      | ok middle =>
          rw [bind_of_ok continued, bind_of_ok rfl]
          simp only [List.append_assoc]

theorem reading_bind (read : Except Error Value) (next : Value -> Except Error Result) :
    (reading (read >>= next) : Script Error Action Result) =
      reading read >>= fun value => reading (next value) := by
  cases read with
  | error error => rfl
  | ok value => rfl

theorem bind_pure (script : Script Error Action Value) : script >>= pure = script := by
  cases ended : script.ending with
  | error error =>
      rw [bind_of_error ended, ← ended]
  | ok value =>
      rw [bind_of_ok ended]
      simp only [pure_actions, List.append_nil, pure_ending, ← ended]

/-- A sequence that ends well is made of two scripts that end well. -/
theorem bind_ending_ok {script : Script Error Action Value}
    {continuation : Value -> Script Error Action Result} {result : Result} :
    (script >>= continuation).ending = .ok result <->
      Exists fun value : Value =>
        script.ending = .ok value ∧ (continuation value).ending = .ok result := by
  cases ended : script.ending with
  | error error =>
      rw [bind_of_error ended]
      simp only [reduceCtorEq, false_and, exists_false]
  | ok value =>
      rw [bind_of_ok ended]
      simp only [Except.ok.injEq, exists_eq_left']

theorem bind_ends {script : Script Error Action Value}
    {continuation : Value -> Script Error Action Result} {value : Value} {result : Result}
    (first : script.ending = .ok value) (second : (continuation value).ending = .ok result) :
    (script >>= continuation).ending = .ok result :=
  bind_ending_ok.mpr ⟨value, first, second⟩

/-- A sequence fails in its first or in its second part. -/
theorem bind_ending_error {script : Script Error Action Value}
    {continuation : Value -> Script Error Action Result} {error : Error} :
    (script >>= continuation).ending = .error error <->
      script.ending = .error error ∨ Exists fun value : Value =>
        script.ending = .ok value ∧ (continuation value).ending = .error error := by
  cases ended : script.ending with
  | error other =>
      rw [bind_of_error ended]
      simp only [Except.error.injEq, reduceCtorEq, false_and, exists_false, or_false]
  | ok value =>
      rw [bind_of_ok ended]
      simp only [reduceCtorEq, Except.ok.injEq, exists_eq_left', false_or]

/-- A loop fails in the first of its rounds that fails. -/
theorem forM_ending_error {items : List Item} {script : Item -> Script Error Action PUnit}
    {error : Error} (failed : (items.forM script).ending = .error error) :
    Exists fun before : List Item => Exists fun item : Item => Exists fun after : List Item =>
      items = before ++ item :: after ∧
        (forall earlier, earlier ∈ before -> (script earlier).ending = .ok ⟨⟩) ∧
        (script item).ending = .error error := by
  induction items with
  | nil => cases failed
  | cons item rest inductionHypothesis =>
      rcases bind_ending_error.mp failed with here | ⟨_, passed, later⟩
      · exact ⟨[], item, rest, rfl, nofun, here⟩
      · rcases inductionHypothesis later with ⟨before, found, after, split, earlier, there⟩
        refine ⟨item :: before, found, after, congrArg (List.cons item) split, ?_, there⟩
        intro other member
        rcases List.mem_cons.mp member with rfl | inside
        · exact passed
        · exact earlier other inside

/-- A loop ends well if all its rounds do. -/
theorem forM_ending_ok {items : List Item} {script : Item -> Script Error Action PUnit} :
    (items.forM script).ending = .ok ⟨⟩ <-> forall item, item ∈ items -> (script item).ending = .ok ⟨⟩ := by
  induction items with
  | nil => exact ⟨fun _ => nofun, fun _ => rfl⟩
  | cons item rest inductionHypothesis =>
      constructor
      · intro ended
        rcases bind_ending_ok.mp ended with ⟨_, passed, later⟩
        intro other member
        rcases List.mem_cons.mp member with rfl | inside
        · exact passed
        · exact inductionHypothesis.mp later other inside
      · intro all
        apply bind_ending_ok.mpr
        exact ⟨⟨⟩, all item List.mem_cons_self,
          inductionHypothesis.mpr fun other member => all other (List.mem_cons_of_mem _ member)⟩

/-- A loop that ends well takes all actions of its rounds. -/
theorem forM_actions {items : List Item} {script : Item -> Script Error Action PUnit}
    (ended : (items.forM script).ending = .ok ⟨⟩) :
    (items.forM script).actions = items.flatMap fun item => (script item).actions := by
  induction items with
  | nil => rfl
  | cons item rest inductionHypothesis =>
      rcases bind_ending_ok.mp ended with ⟨_, passed, later⟩
      have unfolded : (item :: rest).forM script = script item >>= fun _ => rest.forM script := rfl
      rw [unfolded, bind_of_ok passed, List.flatMap_cons, ← inductionHypothesis later]

/-- A loop with an accumulator whose rounds do not fail. -/
theorem foldlM_ends {items : List Item} {script : Value -> Item -> Script Error Action Value}
    {next : Value -> Item -> Value}
    (rounds : forall carried item, item ∈ items -> (script carried item).ending = .ok (next carried item))
    (carried : Value) : (items.foldlM script carried).ending = .ok (items.foldl next carried) := by
  induction items generalizing carried with
  | nil => rfl
  | cons item rest inductionHypothesis =>
      rw [List.foldlM_cons, List.foldl_cons]
      apply bind_ends (rounds carried item List.mem_cons_self)
      apply inductionHypothesis
      intro later other member
      exact rounds later other (List.mem_cons_of_mem item member)

end Script

/-- The script takes actions of one kind only, and fails where the read does. -/
def Sketches (kind : Action -> Prop) (script : Script Error Action Value)
    (read : Except Error PUnit.{1}) : Prop :=
  (forall action, action ∈ script.actions -> kind action) ∧
    script.ending.map (fun _ => PUnit.unit.{1}) = read

namespace Sketches

variable {kind : Action -> Prop}

theorem returns (value : Value) :
    Sketches kind (pure value : Script Error Action Value) (.ok ⟨⟩) :=
  ⟨nofun, rfl⟩

/-- A script that sketches a successful read comes to its end. -/
theorem ends {script : Script Error Action PUnit.{1}} (sketches : Sketches kind script (.ok ⟨⟩)) :
    script.ending = .ok ⟨⟩ := by
  have last := sketches.2
  cases ended : script.ending with
  | error error =>
      rw [ended] at last
      cases last
  | ok value => rfl

theorem act {action : Action} (fits : kind action) :
    Sketches kind (.act action : Script Error Action PUnit) (.ok ⟨⟩) := by
  refine ⟨?_, rfl⟩
  intro other member
  rw [List.mem_singleton.mp member]
  exact fits

theorem raises (error : Error) :
    Sketches kind (.reading (.error error) : Script Error Action Value) (.error error) :=
  ⟨nofun, rfl⟩

theorem reads {read : Except Error Found} {script : Found -> Script Error Action Value}
    {rest : Found -> Except Error PUnit.{1}}
    (continues : forall found, read = .ok found -> Sketches kind (script found) (rest found)) :
    Sketches kind (.reading read >>= script) (read >>= rest) := by
  cases read with
  | error error => exact ⟨nofun, rfl⟩
  | ok found => exact continues found rfl

/-- A read that succeeds. -/
theorem finds {read : Except Error Found} {found : Found} (there : read = .ok found)
    {script : Found -> Script Error Action Value} {rest : Except Error PUnit.{1}}
    (continues : Sketches kind (script found) rest) :
    Sketches kind (.reading read >>= script) rest := by
  subst there
  exact continues

theorem andThen {script : Script Error Action Found} {read rest : Except Error PUnit.{1}}
    {continuation : Found -> Script Error Action Value} (initially : Sketches kind script read)
    (afterwards : forall found, script.ending = .ok found -> Sketches kind (continuation found) rest) :
    Sketches kind (script >>= continuation) (read >>= fun _ => rest) := by
  rcases initially with ⟨only, ends⟩
  cases ended : script.ending with
  | error error =>
      rw [Script.bind_of_error ended, ← ends, ended]
      exact ⟨only, rfl⟩
  | ok found =>
      rcases afterwards found ended with ⟨further, last⟩
      rw [Script.bind_of_ok ended, ← ends, ended]
      refine ⟨?_, last⟩
      intro action member
      rcases List.mem_append.mp member with early | late
      · exact only action early
      · exact further action late

/-- A continuation that reads nothing. -/
theorem thenReturns {script : Script Error Action Found} {read : Except Error PUnit.{1}}
    {continuation : Found -> Script Error Action Value} (initially : Sketches kind script read)
    (afterwards : forall found, Sketches kind (continuation found) (.ok ⟨⟩)) :
    Sketches kind (script >>= continuation) read := by
  have both := initially.andThen fun found _ => afterwards found
  cases read with
  | error error => exact both
  | ok found => exact both

theorem fold {items : List Item} {script : Value -> Item -> Script Error Action Value}
    {read : Item -> Except Error PUnit.{1}}
    (rounds : forall carried item, Sketches kind (script carried item) (read item))
    (carried : Value) : Sketches kind (items.foldlM script carried) (items.forM read) := by
  induction items generalizing carried with
  | nil => exact returns carried
  | cons item rest inductionHypothesis =>
      simp only [List.foldlM_cons]
      exact (rounds carried item).andThen fun found _ => inductionHypothesis found

/-- A loop whose rounds do not fail. -/
theorem loop {items : List Item} {script : Item -> Script Error Action PUnit}
    (rounds : forall item, item ∈ items -> Sketches kind (script item) (.ok ⟨⟩)) :
    Sketches kind (items.forM script) (.ok ⟨⟩) := by
  induction items with
  | nil => exact returns _
  | cons item rest inductionHypothesis =>
      apply (rounds item List.mem_cons_self).andThen
      intro _ _
      apply inductionHypothesis
      intro other member
      exact rounds other (List.mem_cons_of_mem item member)

end Sketches

/-- A script that comes to its end has taken actions of one kind only. -/
structure Takes (kind : Action -> Prop) (script : Script Error Action Value) : Prop where
  fits : forall value, script.ending = .ok value ->
    forall action, action ∈ script.actions -> kind action

namespace Takes

variable {kind : Action -> Prop}

theorem returns (value : Value) : Takes kind (pure value : Script Error Action Value) :=
  ⟨fun _ _ => nofun⟩

theorem read (read : Except Error Value) :
    Takes kind (.reading read : Script Error Action Value) :=
  ⟨fun _ _ => nofun⟩

theorem act {action : Action} (fits : kind action) :
    Takes kind (.act action : Script Error Action PUnit) := by
  constructor
  intro _ _ other member
  rw [List.mem_singleton.mp member]
  exact fits

theorem andThen {script : Script Error Action Found}
    {continuation : Found -> Script Error Action Value} (initially : Takes kind script)
    (afterwards : forall found, Takes kind (continuation found)) :
    Takes kind (script >>= continuation) := by
  constructor
  intro value ended action member
  rcases Script.bind_ending_ok.mp ended with ⟨found, passed, continued⟩
  rw [Script.bind_of_ok passed] at member
  rcases List.mem_append.mp member with early | late
  · exact initially.fits found passed action early
  · exact (afterwards found).fits value continued action late

theorem reads {read : Except Error Found} {continuation : Found -> Script Error Action Value}
    (afterwards : forall found, Takes kind (continuation found)) :
    Takes kind (.reading read >>= continuation) :=
  (Takes.read read).andThen afterwards

theorem fold {items : List Item} {script : Value -> Item -> Script Error Action Value}
    (rounds : forall carried item, Takes kind (script carried item)) (carried : Value) :
    Takes kind (items.foldlM script carried) := by
  induction items generalizing carried with
  | nil => exact returns carried
  | cons item rest inductionHypothesis =>
      rw [List.foldlM_cons]
      exact (rounds carried item).andThen inductionHypothesis

end Takes

/-- Take actions in a view of the state. -/
def performed (perform : Action -> View -> View) (actions : List Action) (view : View) : View :=
  actions.foldl (fun reached action => perform action reached) view

theorem performed_append (perform : Action -> View -> View) (first second : List Action)
    (view : View) :
    performed perform (first ++ second) view =
      performed perform second (performed perform first view) :=
  List.foldl_append

/-- From every state that is ready, the procedure takes the actions of the
script and ends as the script does.  What `done` says of the outcome of the
script, the value of the procedure and the state holds at the end. -/
def Enacts (view : State -> View) (perform : Action -> View -> View) (ready : State -> Prop)
    (script : Script Error Action Outcome) (done : Outcome -> Value -> State -> Prop)
    (procedure : EStateM Error State Value) : Prop :=
  forall state, ready state ->
    match script.ending with
    | .ok outcome => Exists fun value : Value => Exists fun after : State =>
        procedure.run state = .ok value after ∧
          view after = performed perform script.actions (view state) ∧ done outcome value after
    | .error error => Exists fun after : State =>
        procedure.run state = .error error after ∧
          view after = performed perform script.actions (view state)

namespace Enacts

variable {view : State -> View} {perform : Action -> View -> View} {ready : State -> Prop}

theorem weaken {earlier : State -> Prop} {script : Script Error Action Outcome}
    {done final : Outcome -> Value -> State -> Prop} {procedure : EStateM Error State Value}
    (enacts : Enacts view perform ready script done procedure)
    (enough : forall state, earlier state -> ready state)
    (implies : forall outcome value state, done outcome value state -> final outcome value state) :
    Enacts view perform earlier script final procedure := by
  intro state start
  have run := enacts state (enough state start)
  cases ended : script.ending with
  | error error =>
      rw [ended] at run
      exact run
  | ok outcome =>
      rw [ended] at run
      rcases run with ⟨value, after, ran, shown, finished⟩
      exact ⟨value, after, ran, shown, implies outcome value after finished⟩

/-- A procedure that returns follows a script that ends well. -/
theorem of_ok {script : Script Error Action Outcome} {done : Outcome -> Value -> State -> Prop}
    {procedure : EStateM Error State Value}
    (enacts : Enacts view perform ready script done procedure) {before after : State} {value : Value}
    (start : ready before) (ran : procedure.run before = .ok value after) :
    Exists fun outcome : Outcome => script.ending = .ok outcome ∧
      view after = performed perform script.actions (view before) ∧ done outcome value after := by
  have run := enacts before start
  cases ended : script.ending with
  | error error =>
      rw [ended] at run
      rcases run with ⟨other, failed, _⟩
      rw [failed] at ran
      cases ran
  | ok outcome =>
      rw [ended] at run
      rcases run with ⟨found, reached, returned, shown, finished⟩
      rw [returned] at ran
      cases ran
      exact ⟨outcome, rfl, shown, finished⟩

/-- A procedure that fails follows a script that fails. -/
theorem of_error {script : Script Error Action Outcome} {done : Outcome -> Value -> State -> Prop}
    {procedure : EStateM Error State Value}
    (enacts : Enacts view perform ready script done procedure) {before after : State} {error : Error}
    (start : ready before) (ran : procedure.run before = .error error after) :
    script.ending = .error error ∧
      view after = performed perform script.actions (view before) := by
  have run := enacts before start
  cases ended : script.ending with
  | error other =>
      rw [ended] at run
      rcases run with ⟨reached, failed, shown⟩
      rw [failed] at ran
      cases ran
      exact ⟨rfl, shown⟩
  | ok outcome =>
      rw [ended] at run
      rcases run with ⟨found, reached, returned, _, _⟩
      rw [returned] at ran
      cases ran

/-- What the view shows in the end, however the procedure ends. -/
theorem shown {script : Script Error Action Outcome} {done : Outcome -> Value -> State -> Prop}
    {procedure : EStateM Error State Value}
    (enacts : Enacts view perform ready script done procedure) {before : State}
    (start : ready before) :
    view (finalState (procedure.run before)) = performed perform script.actions (view before) := by
  cases ran : procedure.run before with
  | error error after => exact (enacts.of_error start ran).2
  | ok value after =>
      rcases enacts.of_ok start ran with ⟨_, _, same, _⟩
      exact same

/-- A procedure that starts from more than it needs. -/
theorem starting {earlier : State -> Prop} {script : Script Error Action Outcome}
    {done : Outcome -> Value -> State -> Prop} {procedure : EStateM Error State Value}
    (enough : forall state, earlier state -> ready state)
    (enacts : Enacts view perform ready script done procedure) :
    Enacts view perform earlier script done procedure :=
  enacts.weaken enough fun _ _ _ finished => finished

/-- The view at the end of a procedure, where it was known at the start. -/
theorem remembering {script : Script Error Action Outcome}
    {done : Outcome -> Value -> State -> Prop} {procedure : EStateM Error State Value}
    (enacts : Enacts view perform ready script done procedure) (shown : View) :
    Enacts view perform (fun state => view state = shown ∧ ready state) script
      (fun outcome value state =>
        view state = performed perform script.actions shown ∧ done outcome value state)
      procedure := by
  intro state start
  have run := enacts state start.2
  cases ended : script.ending with
  | error error =>
      rw [ended] at run
      exact run
  | ok outcome =>
      rw [ended] at run
      rcases run with ⟨value, after, ran, reached, finished⟩
      refine ⟨value, after, ran, reached, ?_, finished⟩
      rw [reached, start.1]

/-- A view that does not show the actions of a script sees only how it ends. -/
theorem sketched {kind : Action -> Prop} {script : Script Error Action Outcome}
    {read : Except Error PUnit.{1}} {final : State -> Prop} {procedure : EStateM Error State Value}
    (enacts : Enacts view perform ready script (fun _ _ => final) procedure)
    (sketch : Sketches kind script read)
    (hidden : forall action shown, kind action -> perform action shown = shown) :
    Enacts view perform ready (.reading read : Script Error Action PUnit) (fun _ _ => final)
      procedure := by
  have unseen : forall shown, performed perform script.actions shown = shown := by
    intro shown
    have only := sketch.1
    generalize script.actions = actions at only
    simp only [performed]
    induction actions with
    | nil => rfl
    | cons action rest inductionHypothesis =>
        rw [List.foldl_cons, hidden action shown (only action List.mem_cons_self)]
        exact inductionHypothesis fun other member => only other (List.mem_cons_of_mem _ member)
  intro state start
  have run := enacts state start
  rw [← sketch.2]
  cases ended : script.ending with
  | error error =>
      rw [ended] at run
      rcases run with ⟨after, ran, shown⟩
      exact ⟨after, ran, shown.trans (unseen _)⟩
  | ok outcome =>
      rw [ended] at run
      rcases run with ⟨value, after, ran, shown, finished⟩
      exact ⟨value, after, ran, shown.trans (unseen _), finished⟩

/-- A fact that the ready states share. -/
theorem knowing {fact : Prop} {script : Script Error Action Outcome}
    {done : Outcome -> Value -> State -> Prop} {procedure : EStateM Error State Value}
    (shared : forall state, ready state -> fact)
    (enacts : fact -> Enacts view perform ready script done procedure) :
    Enacts view perform ready script done procedure :=
  fun state start => enacts (shared state start) state start

/-- A fact in front of what makes a state ready. -/
theorem given {fact : Prop} {script : Script Error Action Outcome}
    {done : Outcome -> Value -> State -> Prop} {procedure : EStateM Error State Value}
    (enacts : fact -> Enacts view perform ready script done procedure) :
    Enacts view perform (fun state => fact ∧ ready state) script done procedure :=
  fun state start => enacts start.1 state start.2

theorem returns {value : Value} {outcome : Outcome} {done : Outcome -> Value -> State -> Prop}
    (finished : forall state, ready state -> done outcome value state) :
    Enacts view perform ready (pure outcome : Script Error Action Outcome) done (pure value) :=
  fun state start => ⟨value, state, rfl, rfl, finished state start⟩

theorem raises {read : Except Error Outcome} {error : Error} (failed : read = .error error)
    {done : Outcome -> Value -> State -> Prop} :
    Enacts view perform ready (.reading read : Script Error Action Outcome) done (throw error) := by
  intro state start
  rw [failed]
  exact ⟨state, rfl, rfl⟩

/-- An update that is an action of the view. -/
theorem does {action : Action} {change : State -> State} {done : PUnit -> PUnit -> State -> Prop}
    (shown : forall state, ready state -> view (change state) = perform action (view state))
    (finished : forall state, ready state -> done ⟨⟩ ⟨⟩ (change state)) :
    Enacts view perform ready (.act action : Script Error Action PUnit) done (modify change) :=
  fun state start => ⟨⟨⟩, change state, rfl, shown state start, finished state start⟩

/-- A procedure that starts with an update that the view does not show. -/
theorem quietly {between : State -> Prop} {change : State -> State}
    {script : Script Error Action Outcome} {done : Outcome -> Value -> State -> Prop}
    {rest : PUnit -> EStateM Error State Value}
    (hidden : forall state, ready state -> view (change state) = view state)
    (kept : forall state, ready state -> between (change state))
    (continues : Enacts view perform between script done (rest ⟨⟩)) :
    Enacts view perform ready script done (modify change >>= rest) := by
  intro state start
  have run := continues (change state) (kept state start)
  rw [hidden state start] at run
  exact run

/-- A procedure that starts with a read. -/
theorem reads {read : Except Error Found} {script : Found -> Script Error Action Outcome}
    {done : Outcome -> Value -> State -> Prop} {body : Found -> EStateM Error State Value}
    (continues : forall found, read = .ok found ->
      Enacts view perform ready (script found) done (body found)) :
    Enacts view perform ready (.reading read >>= script) done (raising read >>= body) := by
  cases read with
  | error error => exact fun state start => ⟨state, rfl, rfl⟩
  | ok found => exact continues found rfl

/-- A procedure that looks at its state. -/
theorem looks {script : Script Error Action Outcome} {done : Outcome -> Value -> State -> Prop}
    {body : State -> EStateM Error State Value}
    (continues : forall state, ready state ->
      Enacts view perform (fun current => current = state ∧ ready current) script done (body state)) :
    Enacts view perform ready script done (get >>= body) :=
  fun state start => continues state start state ⟨rfl, start⟩

/-- One procedure after the other. -/
theorem andThen {Middle : Type} {first : Script Error Action Middle}
    {second : Middle -> Script Error Action Outcome} {between : Middle -> Found -> State -> Prop}
    {done : Outcome -> Value -> State -> Prop} {procedure : EStateM Error State Found}
    {continuation : Found -> EStateM Error State Value}
    (initially : Enacts view perform ready first between procedure)
    (afterwards : forall middle found, first.ending = .ok middle ->
      Enacts view perform (between middle found) (second middle) done (continuation found)) :
    Enacts view perform ready (first >>= second) done (procedure >>= continuation) := by
  intro state start
  have run := initially state start
  rw [EStateM.run_bind]
  cases ended : first.ending with
  | error error =>
      rw [ended] at run
      rcases run with ⟨after, ran, shown⟩
      rw [Script.bind_of_error ended, ran]
      exact ⟨after, rfl, shown⟩
  | ok middle =>
      rw [ended] at run
      rcases run with ⟨found, reached, ran, shown, passed⟩
      rw [Script.bind_of_ok ended, ran]
      simp only [performed_append, ← shown]
      exact afterwards middle found ended reached passed

/-- A procedure whose value is not used. -/
theorem discarding {script : Script Error Action Outcome} {final : State -> Prop}
    {procedure : EStateM Error State Value}
    (enacts : Enacts view perform ready script (fun _ _ => final) procedure) :
    Enacts view perform ready (script >>= fun _ => pure PUnit.unit)
      (fun _ (_ : PUnit) => final) (discard procedure) := by
  have same : (discard procedure : EStateM Error State PUnit) =
      procedure >>= fun _ => pure PUnit.unit := by
    exact map_eq_pure_bind (fun _ => PUnit.unit) procedure
  rw [same]
  exact enacts.andThen fun _ _ _ => returns fun _ passed => passed

/-- A loop takes the actions of its rounds, one after the other. -/
theorem loop {items : List Item} {script : Item -> Script Error Action PUnit}
    {body : Item -> EStateM Error State PUnit}
    (rounds : forall item, item ∈ items ->
      Enacts view perform ready (script item) (fun _ _ => ready) (body item)) :
    Enacts view perform ready (items.forM script) (fun _ _ => ready) (items.forM body) := by
  induction items with
  | nil => exact returns fun state start => start
  | cons item rest inductionHypothesis =>
      apply (rounds item List.mem_cons_self).andThen
      intro middle found ended
      exact inductionHypothesis fun other member => rounds other (List.mem_cons_of_mem _ member)

/-- A loop that carries a value along. -/
theorem fold {items : List Item} {script : Value -> Item -> Script Error Action Value}
    {body : Value -> Item -> EStateM Error State Value}
    (rounds : forall carried item, item ∈ items -> Enacts view perform ready (script carried item)
      (fun outcome value state => value = outcome ∧ ready state) (body carried item))
    (carried : Value) :
    Enacts view perform ready (items.foldlM script carried)
      (fun outcome value state => value = outcome ∧ ready state) (items.foldlM body carried) := by
  induction items generalizing carried with
  | nil => exact returns fun state start => ⟨rfl, start⟩
  | cons item rest inductionHypothesis =>
      simp only [List.foldlM_cons]
      apply (rounds carried item List.mem_cons_self).andThen
      intro middle found ended
      apply knowing fun state between => And.left between
      intro same
      subst same
      apply (inductionHypothesis
        (fun carried other member => rounds carried other (List.mem_cons_of_mem _ member))
        found).weaken
      · exact fun state between => between.2
      · exact fun outcome value state finished => finished

end Enacts
end Library
end CrashPython

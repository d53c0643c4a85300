import Mathlib.Logic.Function.Basic

namespace CrashPython
namespace Library

/-!
# Objects that make their attributes on demand

An object has attributes of its own and those of its class.  Where neither has the one that
is wanted, a hook of the class is called.  Unless a flag of the object is set, the hook runs a
method that is to make the attributes, sets the flag, and looks for the attribute again.

The method reads attributes of the object itself.  A read of one that is missing calls the
hook, and as the flag is set only after the method has returned, the hook runs the method
again.  Calls of the hook within each other are limited in number.

`Ensures` is a calculus of preconditions for programs that read and assign attributes.  It
knows the values of some attributes, and follows a program as long as it reads no others.
-/

/-- A program on the attributes of one object. -/
inductive AttributeProgram (Name Value Error : Type) where
  | done
  | raise (error : Error)
  | read (name : Name) (next : Value -> AttributeProgram Name Value Error)
  | assign (name : Name) (value : Value) (next : AttributeProgram Name Value Error)

/-- The attributes of an object.  `running` calls of the method are under way, at most
`deepest` were under way at a time, and `completions` have returned. -/
structure LazyState (Name Value : Type) where
  attributes : Name -> Option Value
  running : Nat
  deepest : Nat
  completions : Nat

/-- A class with such a hook.  The value `set` of the flag is true. -/
structure LazyClass (Name Value Error : Type) where
  member : Name -> Option Value
  init : AttributeProgram Name Value Error
  interpret : AttributeProgram Name Value Error
  flag : Name
  truth : Value -> Bool
  set : Value
  set_true : truth set = true
  missing : Name -> Error
  recursion : Error

variable {Name Value Error : Type} [DecidableEq Name]

namespace LazyState

/-- An object before its constructor has run. -/
def new : LazyState Name Value where
  attributes := fun _ => none
  running := 0
  deepest := 0
  completions := 0

def assign (name : Name) (value : Value) (state : LazyState Name Value) : LazyState Name Value :=
  { state with attributes := Function.update state.attributes name (some value) }

/-- The method is called. -/
def enter (state : LazyState Name Value) : LazyState Name Value :=
  { state with
    running := state.running + 1
    deepest := max state.deepest (state.running + 1) }

/-- The method returns, or an exception leaves it. -/
def leave (returned : Bool) (state : LazyState Name Value) : LazyState Name Value :=
  { state with
    running := state.running - 1
    completions := if returned then state.completions + 1 else state.completions }

end LazyState

open LazyState

namespace AttributeProgram

/-- Go on with a value that was read elsewhere. -/
def reading {Failure Found : Type} (failure : Failure -> Error) (result : Except Failure Found)
    (next : Found -> AttributeProgram Name Value Error) : AttributeProgram Name Value Error :=
  match result with
  | .error error => .raise (failure error)
  | .ok found => next found

/-- Run a program, with a way to read attributes. -/
def run (get : Name -> LazyState Name Value -> LazyState Name Value × Except Error Value) :
    AttributeProgram Name Value Error -> LazyState Name Value ->
      LazyState Name Value × Except Error Unit
  | .done, state => (state, .ok ())
  | .raise error, state => (state, .error error)
  | .read name next, state =>
      match get name state with
      | (after, .error error) => (after, .error error)
      | (after, .ok value) => (next value).run get after
  | .assign name value next, state => next.run get (state.assign name value)

end AttributeProgram

namespace LazyClass

variable (cls : LazyClass Name Value Error)

/-- An attribute of the object or else of the class. -/
def lookup (name : Name) (state : LazyState Name Value) : Option Value :=
  (state.attributes name).or (cls.member name)

/-- Run the method of the object. -/
def call (get : Name -> LazyState Name Value -> LazyState Name Value × Except Error Value)
    (state : LazyState Name Value) : LazyState Name Value × Except Error Unit :=
  match cls.interpret.run get state.enter with
  | (after, .error error) => (after.leave false, .error error)
  | (after, .ok _) => (after.leave true, .ok ())

/-- The hook for missing attributes. -/
def hook (get : Name -> LazyState Name Value -> LazyState Name Value × Except Error Value)
    (name : Name) (state : LazyState Name Value) : LazyState Name Value × Except Error Value :=
  match get cls.flag state with
  | (after, .error error) => (after, .error error)
  | (after, .ok value) =>
      if cls.truth value then (after, .error (cls.missing name))
      else
        match cls.call get after with
        | (later, .error error) => (later, .error error)
        | (later, .ok _) => get name (later.assign cls.flag cls.set)

/-- Read an attribute, with a limit on the calls of the hook within each other. -/
def getattr : Nat -> Name -> LazyState Name Value -> LazyState Name Value × Except Error Value
  | limit, name, state =>
      match cls.lookup name state with
      | some value => (state, .ok value)
      | none =>
          match limit with
          | 0 => (state, .error cls.recursion)
          | limit + 1 => cls.hook (getattr limit) name state

/-- Run the constructor. -/
def construct (limit : Nat) : LazyState Name Value × Except Error Unit :=
  cls.init.run (cls.getattr limit) new

/-- Read attributes one after the other, whatever becomes of each. -/
def getattrs (limit : Nat) : List Name -> LazyState Name Value ->
    LazyState Name Value × List (Except Error Value)
  | [], state => (state, [])
  | name :: names, state =>
      let (after, result) := cls.getattr limit name state
      let (last, results) := getattrs limit names after
      (last, result :: results)

end LazyClass

/-! ## Preconditions -/

namespace AttributeProgram

variable (flag : Name) (frame : Name -> Option Value)
  (ends : Except Error (Name -> Option Value) -> Prop)

/-- Where the known attributes have their values, the program reads no others, leaves the flag
and the attributes of the frame alone, and ends as wanted: with an exception, or with what is
known then. -/
def Ensures : AttributeProgram Name Value Error -> (Name -> Option Value) -> Prop
  | .done, known => ends (.ok known)
  | .raise error, _ => ends (.error error)
  | .read name next, known =>
      Exists fun value : Value => known name = some value ∧ (next value).Ensures known
  | .assign name value next, known =>
      name ≠ flag ∧ frame name = none ∧ next.Ensures (Function.update known name (some value))

/-- An exception at the end is one that is allowed. -/
def Allows (allowed : Error -> Prop) : Except Error (Name -> Option Value) -> Prop
  | .error error => allowed error
  | .ok _ => True

variable {flag frame ends}

theorem ensures_reading {Failure Found : Type} {failure : Failure -> Error}
    {result : Except Failure Found} {next : Found -> AttributeProgram Name Value Error}
    {known : Name -> Option Value}
    (fails : forall error, result = .error error -> ends (.error (failure error)))
    (continues : forall found, result = .ok found -> (next found).Ensures flag frame ends known) :
    (reading failure result next).Ensures flag frame ends known := by
  cases result with
  | error error => exact fails error rfl
  | ok found => exact continues found rfl

/-- Go on with a value that is known to be found. -/
theorem ensures_found {Failure Found : Type} {failure : Failure -> Error}
    {result : Except Failure Found} {next : Found -> AttributeProgram Name Value Error}
    {known : Name -> Option Value} {found : Found} (success : result = .ok found)
    (continues : (next found).Ensures flag frame ends known) :
    (reading failure result next).Ensures flag frame ends known := by
  rw [success]
  exact continues

end AttributeProgram

/-- The known attributes have their values. -/
def LazyClass.There (cls : LazyClass Name Value Error) (known : Name -> Option Value)
    (state : LazyState Name Value) : Prop :=
  forall name value, known name = some value -> cls.lookup name state = some value

/-- A run has ended like this. -/
def LazyClass.Ended (cls : LazyClass Name Value Error) (ran : LazyState Name Value × Except Error Unit) :
    Except Error (Name -> Option Value) -> Prop
  | .error error => ran.2 = .error error
  | .ok reached => ran.2 = .ok () ∧ cls.There reached ran.1

/-- What a program that keeps to its attributes does not change. -/
structure LazyState.Undisturbed (flag : Name) (before after : LazyState Name Value) : Prop where
  flag : after.attributes flag = before.attributes flag
  running : after.running = before.running
  deepest : after.deepest = before.deepest
  completions : after.completions = before.completions

namespace LazyClass

variable {cls : LazyClass Name Value Error} {allowed : Error -> Prop}

theorem getattr_of_lookup {limit : Nat} {name : Name} {state : LazyState Name Value} {value : Value}
    (found : cls.lookup name state = some value) :
    cls.getattr limit name state = (state, .ok value) := by
  unfold getattr
  rw [found]

theorem lookup_assign (name other : Name) (value : Value) (state : LazyState Name Value) :
    cls.lookup other (state.assign name value) =
      if other = name then some value else cls.lookup other state := by
  change (Function.update state.attributes name (some value) other).or (cls.member other) = _
  by_cases same : other = name
  · subst same
    rw [if_pos rfl, Function.update_self, Option.some_or]
  · rw [if_neg same, Function.update_of_ne same]
    rfl

theorem There.assign {known : Name -> Option Value} {state : LazyState Name Value} {name : Name}
    (there : cls.There known state) (other : known name = none) (value : Value) :
    cls.There known (state.assign name value) := by
  intro wanted found present
  rw [lookup_assign, if_neg]
  · exact there wanted found present
  · intro same
    rw [same, other] at present
    cases present

theorem There.update {known : Name -> Option Value} {state : LazyState Name Value}
    (there : cls.There known state) (name : Name) (value : Value) :
    cls.There (Function.update known name (some value)) (state.assign name value) := by
  intro wanted found present
  rw [lookup_assign]
  by_cases same : wanted = name
  · rw [same, Function.update_self] at present
    rw [if_pos same, present]
  · rw [Function.update_of_ne same] at present
    rw [if_neg same]
    exact there wanted found present

/-- A program that reads known attributes only runs without the hook. -/
theorem run_ensures {frame : Name -> Option Value}
    {ends : Except Error (Name -> Option Value) -> Prop} (limit : Nat)
    (program : AttributeProgram Name Value Error) {known : Name -> Option Value}
    {state : LazyState Name Value} (ensures : program.Ensures cls.flag frame ends known)
    (there : cls.There known state) (framed : cls.There frame state) :
    LazyState.Undisturbed cls.flag state (program.run (cls.getattr limit) state).1 ∧
      cls.There frame (program.run (cls.getattr limit) state).1 ∧
      Exists fun ending : Except Error (Name -> Option Value) =>
        ends ending ∧ cls.Ended (program.run (cls.getattr limit) state) ending := by
  induction program generalizing known state with
  | done => exact ⟨⟨rfl, rfl, rfl, rfl⟩, framed, .ok known, ensures, rfl, there⟩
  | raise error => exact ⟨⟨rfl, rfl, rfl, rfl⟩, framed, .error error, ensures, rfl⟩
  | read name next inductionHypothesis =>
      rcases ensures with ⟨value, found, continues⟩
      have step : (AttributeProgram.read name next).run (cls.getattr limit) state =
          (next value).run (cls.getattr limit) state := by
        rw [AttributeProgram.run, getattr_of_lookup (there name value found)]
      rw [step]
      exact inductionHypothesis value continues there framed
  | assign name value next inductionHypothesis =>
      rcases ensures with ⟨other, outside, continues⟩
      rcases inductionHypothesis continues (there.update name value) (framed.assign outside value)
        with ⟨undisturbed, kept, ended⟩
      refine ⟨⟨?_, undisturbed.running, undisturbed.deepest, undisturbed.completions⟩, kept, ended⟩
      exact undisturbed.flag.trans (Function.update_of_ne (Ne.symm other) _ _)

/-! ## Classes whose method finds all it reads -/

variable (cls allowed)

/-- An object between two reads.  The method has returned once if the flag is set, and knows
what it reads. -/
structure Ready (state : LazyState Name Value) : Prop where
  idle : state.running = 0
  single : state.deepest ≤ 1
  once : state.completions ≤ 1
  flag : Exists fun value : Value => state.attributes cls.flag = some value ∧
    (cls.truth value = false -> state.completions = 0)
  ensures : Exists fun known : Name -> Option Value => known cls.flag = none ∧
    cls.There known state ∧ cls.interpret.Ensures cls.flag known (AttributeProgram.Allows allowed) known

/-- The constructor starts with the flag, and makes what the method reads. -/
structure Safe : Prop where
  init : Exists fun unset : Value => Exists fun rest : AttributeProgram Name Value Error =>
    Exists fun known : Name -> Option Value =>
      cls.init = .assign cls.flag unset rest ∧ cls.truth unset = false ∧
        (forall name value, known name = some value -> name ≠ cls.flag ∧ cls.member name = some value) ∧
        rest.Ensures cls.flag (fun _ => none)
          (fun ending => Exists fun reached : Name -> Option Value =>
            ending = .ok reached ∧ reached cls.flag = none ∧
              cls.interpret.Ensures cls.flag reached (AttributeProgram.Allows allowed) reached) known

variable {cls allowed}

omit [DecidableEq Name] in
theorem lookup_flag {state : LazyState Name Value} {value : Value}
    (flag : state.attributes cls.flag = some value) : cls.lookup cls.flag state = some value := by
  simp only [lookup]
  rw [flag, Option.some_or]

theorem hook_of_set {limit : Nat} {name : Name} {state : LazyState Name Value} {value : Value}
    (flag : state.attributes cls.flag = some value) (set : cls.truth value = true) :
    cls.hook (cls.getattr limit) name state = (state, .error (cls.missing name)) := by
  simp only [hook]
  rw [getattr_of_lookup (lookup_flag flag)]
  exact if_pos set

theorem hook_of_unset {limit : Nat} {name : Name} {state : LazyState Name Value} {value : Value}
    (flag : state.attributes cls.flag = some value) (unset : cls.truth value = false) :
    cls.hook (cls.getattr limit) name state =
      match cls.call (cls.getattr limit) state with
      | (later, .error error) => (later, .error error)
      | (later, .ok _) => cls.getattr limit name (later.assign cls.flag cls.set) := by
  simp only [hook]
  rw [getattr_of_lookup (lookup_flag flag)]
  exact if_neg (by rw [unset]; exact Bool.false_ne_true)

/-- A read of a set flag finds the attribute, or says that it is missing. -/
theorem getattr_of_set {limit : Nat} {name : Name} {state : LazyState Name Value} {value : Value}
    (flag : state.attributes cls.flag = some value) (set : cls.truth value = true) :
    (cls.getattr (limit + 1) name state).1 = state ∧
      forall error, (cls.getattr (limit + 1) name state).2 = .error error ->
        error = cls.missing name := by
  cases found : cls.lookup name state with
  | some value =>
      rw [getattr_of_lookup found]
      exact ⟨rfl, nofun⟩
  | none =>
      have step : cls.getattr (limit + 1) name state =
          cls.hook (cls.getattr limit) name state := by
        rw [getattr, found]
      rw [step, hook_of_set flag set]
      refine ⟨rfl, ?_⟩
      intro error same
      cases same
      rfl

/-- The method, called on an object between two reads. -/
theorem call_ready {limit : Nat} {state : LazyState Name Value} (ready : cls.Ready allowed state)
    (started : state.completions = 0) :
    (forall error, (cls.call (cls.getattr limit) state).2 = .error error ->
        allowed error ∧ cls.Ready allowed (cls.call (cls.getattr limit) state).1) ∧
      ((cls.call (cls.getattr limit) state).2 = .ok () ->
        cls.Ready allowed ((cls.call (cls.getattr limit) state).1.assign cls.flag cls.set)) := by
  rcases ready.ensures with ⟨known, unflagged, there, ensures⟩
  rcases ready.flag with ⟨value, flag, _⟩
  have entered : cls.There known state.enter := there
  rcases run_ensures limit cls.interpret ensures entered entered with
    ⟨undisturbed, kept, ending, permitted, ended⟩
  simp only [call]
  rcases ran : cls.interpret.run (cls.getattr limit) state.enter with ⟨after, result⟩
  rw [ran] at undisturbed kept ended
  have idle : after.running - 1 = 0 := by
    rw [undisturbed.running]
    change state.running + 1 - 1 = 0
    rw [ready.idle]
  have single : after.deepest ≤ 1 := by
    rw [undisturbed.deepest]
    change max state.deepest (state.running + 1) ≤ 1
    rw [ready.idle]
    exact Nat.max_le.mpr ⟨ready.single, Nat.le_refl 1⟩
  have none : after.completions = 0 := undisturbed.completions.trans started
  cases result with
  | error error =>
      refine ⟨?_, nofun⟩
      intro other same
      cases same
      have raised : allowed error := by
        cases ending with
        | error other =>
            cases ended
            exact permitted
        | ok reached => cases ended.1
      refine ⟨raised, idle, single, ?_, ⟨value, undisturbed.flag.trans flag, fun _ => none⟩,
        known, unflagged, kept, ensures⟩
      change after.completions ≤ 1
      rw [none]
      exact Nat.zero_le 1
  | ok _ =>
      refine ⟨nofun, fun _ => ⟨idle, single, ?_, ?_, known, unflagged, kept.assign unflagged _, ensures⟩⟩
      · exact Nat.succ_le_succ (Nat.le_of_eq none)
      · refine ⟨cls.set, Function.update_self _ _ _, ?_⟩
        intro unset
        rw [cls.set_true] at unset
        cases unset

/-- A read gives a value, or an exception that is allowed, and keeps the object as it should
be. -/
theorem getattr_ready {limit : Nat} (enough : 2 ≤ limit) (name : Name)
    {state : LazyState Name Value} (ready : cls.Ready allowed state) :
    cls.Ready allowed (cls.getattr limit name state).1 ∧
      forall error, (cls.getattr limit name state).2 = .error error ->
        error = cls.missing name ∨ allowed error := by
  rcases Nat.exists_eq_add_of_le' enough with ⟨spare, same⟩
  subst same
  rcases ready.flag with ⟨value, flag, fresh⟩
  cases set : cls.truth value with
  | true =>
      rcases @getattr_of_set _ _ _ _ cls (spare + 1) name _ _ flag set with ⟨kept, missing⟩
      rw [kept]
      exact ⟨ready, fun error failed => .inl (missing error failed)⟩
  | false =>
      cases found : cls.lookup name state with
      | some value =>
          rw [getattr_of_lookup found]
          exact ⟨ready, nofun⟩
      | none =>
          have step : cls.getattr (spare + 2) name state =
              cls.hook (cls.getattr (spare + 1)) name state := by
            rw [getattr, found]
          rcases @call_ready _ _ _ _ cls allowed (spare + 1) _ ready (fresh set) with ⟨failed, returned⟩
          rw [step, hook_of_unset flag set]
          rcases called : cls.call (cls.getattr (spare + 1)) state with ⟨later, result⟩
          rw [called] at failed returned
          cases result with
          | error error =>
              rcases failed error rfl with ⟨permitted, kept⟩
              refine ⟨kept, ?_⟩
              intro other same
              cases same
              exact .inr permitted
          | ok _ =>
              have kept := returned rfl
              have setFlag : (later.assign cls.flag cls.set).attributes cls.flag = some cls.set :=
                Function.update_self _ _ _
              rcases @getattr_of_set _ _ _ _ cls spare name _ _ setFlag cls.set_true with
                ⟨same, missing⟩
              refine ⟨?_, fun error last => .inl (missing error last)⟩
              change cls.Ready allowed (cls.getattr (spare + 1) name _).1
              rw [same]
              exact kept

/-- The constructor of a safe class returns, does not run the method, and leaves an object that
is ready. -/
theorem construct_ready (safe : cls.Safe allowed) (limit : Nat) :
    (cls.construct limit).2 = .ok () ∧ cls.Ready allowed (cls.construct limit).1 ∧
      (cls.construct limit).1.deepest = 0 ∧ (cls.construct limit).1.completions = 0 := by
  rcases safe.init with ⟨unset, rest, known, shape, low, members, ensures⟩
  have there : cls.There known (new.assign cls.flag unset) := by
    intro name value present
    rcases members name value present with ⟨other, member⟩
    rw [lookup_assign, if_neg other]
    exact member
  have started : cls.construct limit = rest.run (cls.getattr limit) (new.assign cls.flag unset) := by
    simp only [construct]
    rw [shape]
    rfl
  rcases run_ensures limit rest ensures there (fun _ _ impossible => by cases impossible) with
    ⟨undisturbed, _, ending, ⟨reached, same, unflagged, method⟩, ended⟩
  subst same
  rw [← started] at undisturbed ended
  refine ⟨ended.1, ⟨undisturbed.running, ?_, ?_, ⟨unset, ?_, fun _ => undisturbed.completions⟩,
    reached, unflagged, ended.2, method⟩, undisturbed.deepest, undisturbed.completions⟩
  · rw [undisturbed.deepest]
    exact Nat.zero_le 1
  · rw [undisturbed.completions]
    exact Nat.zero_le 1
  · rw [undisturbed.flag]
    exact Function.update_self _ _ _

/-- Any sequence of reads of an object that is ready. -/
theorem getattrs_ready {limit : Nat} (enough : 2 ≤ limit) (names : List Name)
    {state : LazyState Name Value} (ready : cls.Ready allowed state) :
    cls.Ready allowed (cls.getattrs limit names state).1 ∧
      forall error, .error error ∈ (cls.getattrs limit names state).2 ->
        (Exists fun name : Name => error = cls.missing name) ∨ allowed error := by
  induction names generalizing state with
  | nil => exact ⟨ready, fun error member => False.elim (List.not_mem_nil member)⟩
  | cons name rest inductionHypothesis =>
      rcases getattr_ready enough name ready with ⟨kept, failed⟩
      rcases inductionHypothesis kept with ⟨last, failures⟩
      refine ⟨last, ?_⟩
      intro error member
      rcases List.mem_cons.mp member with here | later
      · exact (failed error here.symm).imp_left fun missing => ⟨name, missing⟩
      · exact failures error later

/-- If the method is bound to raise, so is a read of an attribute that is missing. -/
theorem getattr_raises {limit : Nat} {name : Name} {state : LazyState Name Value} {value : Value}
    {known : Name -> Option Value} {error : Error} (flag : state.attributes cls.flag = some value)
    (unset : cls.truth value = false) (missing : cls.lookup name state = none)
    (there : cls.There known state)
    (raises : cls.interpret.Ensures cls.flag known (fun ending => ending = .error error) known) :
    (cls.getattr (limit + 1) name state).2 = .error error := by
  have entered : cls.There known state.enter := there
  rcases run_ensures limit cls.interpret raises entered entered with
    ⟨_, _, ending, same, ended⟩
  subst same
  have step : cls.getattr (limit + 1) name state = cls.hook (cls.getattr limit) name state := by
    rw [getattr, missing]
  rw [step, hook_of_unset flag unset]
  simp only [call]
  rcases ran : cls.interpret.run (cls.getattr limit) state.enter with ⟨after, result⟩
  rw [ran] at ended
  cases ended
  rfl

/-! ## Classes whose method looks for what it should make -/

/-- A method that first reads an attribute that is missing runs again and again, as far as the
limit goes. -/
theorem getattr_recursion {name : Name} {next : Value -> AttributeProgram Name Value Error}
    (first : cls.interpret = .read name next) (unknown : cls.member name = none) (limit : Nat)
    {state : LazyState Name Value} (missing : state.attributes name = none)
    (flag : Exists fun value : Value =>
      state.attributes cls.flag = some value ∧ cls.truth value = false)
    (below : state.running ≤ state.deepest) :
    (cls.getattr limit name state).2 = .error cls.recursion ∧
      state.running + limit ≤ (cls.getattr limit name state).1.deepest := by
  induction limit generalizing state with
  | zero =>
      have step : cls.getattr 0 name state = (state, .error cls.recursion) := by
        simp only [getattr, lookup]
        rw [missing, unknown]
        rfl
      rw [step]
      exact ⟨rfl, below⟩
  | succ limit inductionHypothesis =>
      rcases flag with ⟨value, found, unset⟩
      have step : cls.getattr (limit + 1) name state =
          cls.hook (cls.getattr limit) name state := by
        rw [getattr]
        simp only [lookup]
        rw [missing, unknown]
        rfl
      have again := @inductionHypothesis state.enter missing ⟨value, found, unset⟩
        (Nat.le_max_right _ _)
      rcases inner : cls.getattr limit name state.enter with ⟨after, result⟩
      rw [inner] at again
      rcases again with ⟨failed, deep⟩
      dsimp only at failed deep
      subst failed
      have called : cls.call (cls.getattr limit) state =
          (after.leave false, .error cls.recursion) := by
        simp only [call]
        rw [first, AttributeProgram.run, inner]
      rw [step, hook_of_unset found unset, called]
      refine ⟨rfl, ?_⟩
      change state.running + (limit + 1) ≤ after.deepest
      have entered : state.enter.running = state.running + 1 := rfl
      omega

end LazyClass

end Library
end CrashPython

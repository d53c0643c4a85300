import Mathlib.Data.Set.Insert

namespace CrashPython
namespace Library

/-!
Procedures whose reads are fixed in advance.

A procedure that collects values from an unchanging source meets them in an
order that does not depend on what it has collected so far.  Its reads form a
trace: the values in order, with the reads that fail among them.  The procedure
keeps the values before the first failure and is left with that failure.

`Follows` states this for a stateful procedure and a view of its state.  The
rules below compose it along a sequence and along a loop, so that a nest of
loops is described by the concatenation of its traces.
-/

variable {Error Value State Item Found : Type}

/-- Use the outcome of a read, or be left by its failure. -/
def raising : Except Error Found -> EStateM Error State Found
  | .ok found => pure found
  | .error error => throw error

/-- The trace of a procedure that starts with a read. -/
def readThen (read : Except Error Found) (trace : Found -> List (Except Error Value)) :
    List (Except Error Value) :=
  match read with
  | .ok found => trace found
  | .error error => [.error error]

/-- The first failure of a trace. -/
def failure : List (Except Error Value) -> Option Error
  | [] => none
  | .error error :: _ => some error
  | .ok _ :: rest => failure rest

/-- The values of a trace before its first failure. -/
def seen : List (Except Error Value) -> List Value
  | [] => []
  | .error _ :: _ => []
  | .ok value :: rest => value :: seen rest

theorem failure_append (first second : List (Except Error Value)) :
    failure (first ++ second) = (failure first).or (failure second) := by
  induction first with
  | nil => rfl
  | cons read rest inductionHypothesis =>
      cases read with
      | error error => rfl
      | ok value => exact inductionHypothesis

theorem seen_append (first second : List (Except Error Value)) :
    seen (first ++ second) = match failure first with
      | none => seen first ++ seen second
      | some _ => seen first := by
  induction first with
  | nil => rfl
  | cons read rest inductionHypothesis =>
      cases read with
      | error error => rfl
      | ok value =>
          simp only [List.cons_append, seen, failure, inductionHypothesis]
          cases failure rest with
          | none => rfl
          | some error => rfl

/-- What was seen was read. -/
theorem mem_of_mem_seen {trace : List (Except Error Value)} {value : Value}
    (member : value ∈ seen trace) : .ok value ∈ trace := by
  induction trace with
  | nil => cases member
  | cons read rest inductionHypothesis =>
      cases read with
      | error error => cases member
      | ok first =>
          rcases List.mem_cons.mp member with rfl | later
          · exact List.mem_cons_self
          · exact List.mem_cons_of_mem _ (inductionHypothesis later)

/-- The result of a procedure that ends in a state, with a failure or without. -/
def conclude : Option Error -> State -> EStateM.Result Error State PUnit
  | none, state => .ok ⟨⟩ state
  | some error, state => .error error state

/-- The procedure adds the values of the trace to its collection, up to the
first failure, and ends with that failure. -/
def Follows (collected : State -> Set Value) (trace : List (Except Error Value))
    (procedure : EStateM Error State PUnit) : Prop :=
  forall state, Exists fun after : State =>
    procedure.run state = conclude (failure trace) after ∧
      collected after = collected state ∪ {value | value ∈ seen trace}

namespace Follows

variable {collected : State -> Set Value}

/-- A procedure that reads nothing. -/
theorem idle : Follows collected ([] : List (Except Error Value)) (pure ⟨⟩) := by
  intro state
  refine ⟨state, rfl, ?_⟩
  simp only [seen, List.not_mem_nil, Set.ofPred_false, Set.union_empty]

/-- A procedure that only meets a failing read. -/
theorem fails (error : Error) : Follows collected [.error error] (throw error) := by
  intro state
  refine ⟨state, rfl, ?_⟩
  simp only [seen, List.not_mem_nil, Set.ofPred_false, Set.union_empty]

/-- A procedure that starts with a read. -/
theorem reads {read : Except Error Found} {trace : Found -> List (Except Error Value)}
    {body : Found -> EStateM Error State PUnit}
    (continues : forall found, Follows collected (trace found) (body found)) :
    Follows collected (readThen read trace) (raising read >>= body) := by
  cases read with
  | ok found => exact continues found
  | error error => exact fails error

/-- A procedure that changes its state and adds nothing. -/
theorem update {change : State -> State}
    (silent : forall state, collected (change state) = collected state) :
    Follows collected ([] : List (Except Error Value)) (modify change) := by
  intro state
  refine ⟨change state, rfl, ?_⟩
  simp only [seen, List.not_mem_nil, Set.ofPred_false, Set.union_empty, silent]

/-- A procedure that adds one value. -/
theorem add {change : State -> State} {value : Value}
    (adds : forall state, collected (change state) = collected state ∪ {value}) :
    Follows collected ([.ok value] : List (Except Error Value)) (modify change) := by
  intro state
  refine ⟨change state, rfl, ?_⟩
  simp only [seen, List.mem_singleton, adds]
  rfl

/-- One procedure after the other: the second one runs only if the first did
not fail. -/
theorem andThen {first second : List (Except Error Value)}
    {procedure continuation : EStateM Error State PUnit} (initially : Follows collected first procedure)
    (afterwards : Follows collected second continuation) :
    Follows collected (first ++ second) (procedure >>= fun _ => continuation) := by
  intro state
  rcases initially state with ⟨middle, ran, gathered⟩
  rw [failure_append, seen_append, EStateM.run_bind, ran]
  cases failure first with
  | some error => exact ⟨middle, rfl, gathered⟩
  | none =>
      rcases afterwards middle with ⟨after, continued, further⟩
      refine ⟨after, continued, ?_⟩
      rw [further, gathered, Set.union_assoc]
      congr 1
      ext value
      simp only [Set.mem_union, Set.mem_ofPred_eq, List.mem_append]

/-- A loop follows the traces of its rounds, one after the other. -/
theorem loop {items : List Item} {trace : Item -> List (Except Error Value)}
    {body : Item -> EStateM Error State PUnit}
    (rounds : forall item, item ∈ items -> Follows collected (trace item) (body item)) :
    Follows collected (items.flatMap trace) (items.forM body) := by
  induction items with
  | nil => exact idle
  | cons item rest inductionHypothesis =>
      exact (rounds item List.mem_cons_self).andThen
        (inductionHypothesis fun other member => rounds other (List.mem_cons_of_mem _ member))

end Follows
end Library
end CrashPython

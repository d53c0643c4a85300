import Mathlib.Logic.Function.Basic

namespace CrashPython
namespace Library

/-!
A dictionary after a list of assignments.

A dictionary is a function that knows some of its keys.  Assignments are made from left to
right, so a key has the value of its last assignment, and the value that it had before if
there is none.
-/

section Assignments

variable {Key Value : Type} [DecidableEq Key]

/-- The dictionary after some assignments. -/
def assign (dictionary : Key -> Option Value) (pairs : List (Key × Value)) : Key -> Option Value :=
  pairs.foldl (fun dictionary pair => Function.update dictionary pair.1 (some pair.2)) dictionary

/-- The last value that is assigned to a key. -/
def lastAssigned (key : Key) : List (Key × Value) -> Option Value
  | [] => none
  | pair :: rest => (lastAssigned key rest).or (if pair.1 = key then some pair.2 else none)

/-- A key has its last value, or the one it had before. -/
theorem assign_apply (dictionary : Key -> Option Value) (pairs : List (Key × Value)) (key : Key) :
    assign dictionary pairs key = (lastAssigned key pairs).or (dictionary key) := by
  induction pairs generalizing dictionary with
  | nil => rfl
  | cons pair rest inductionHypothesis =>
      have later := inductionHypothesis (Function.update dictionary pair.1 (some pair.2))
      refine later.trans ?_
      rw [lastAssigned, Option.or_assoc]
      by_cases here : pair.1 = key
      · rw [if_pos here, ← here, Function.update_self, Option.some_or]
      · rw [if_neg here, Function.update_of_ne (Ne.symm here), Option.none_or]

/-- Assignments to other keys do not count. -/
theorem lastAssigned_of_others {key : Key} {pairs : List (Key × Value)}
    (others : forall pair, pair ∈ pairs -> pair.1 ≠ key) : lastAssigned key pairs = none := by
  induction pairs with
  | nil => rfl
  | cons pair rest inductionHypothesis =>
      have later := inductionHypothesis fun other member => others other (List.mem_cons_of_mem _ member)
      rw [lastAssigned, later, if_neg (others pair List.mem_cons_self), Option.or_none]

/-- The last value of a key was assigned to it. -/
theorem mem_of_lastAssigned {key : Key} {value : Value} {pairs : List (Key × Value)}
    (found : lastAssigned key pairs = some value) : (key, value) ∈ pairs := by
  induction pairs with
  | nil => cases found
  | cons pair rest inductionHypothesis =>
      rw [lastAssigned, Option.or_eq_some_iff] at found
      rcases found with later | ⟨_, here⟩
      · exact List.mem_cons_of_mem _ (inductionHypothesis later)
      · split at here
        · rename_i same
          cases here
          rw [← same]
          exact List.mem_cons_self
        · cases here

/-- A key that something is assigned to has a last value. -/
theorem exists_lastAssigned {pair : Key × Value} {pairs : List (Key × Value)} (member : pair ∈ pairs) :
    Exists fun value : Value => lastAssigned pair.1 pairs = some value := by
  cases found : lastAssigned pair.1 pairs with
  | some value => exact ⟨value, rfl⟩
  | none =>
      induction pairs with
      | nil => cases member
      | cons other rest inductionHypothesis =>
          rw [lastAssigned, Option.or_eq_none_iff] at found
          rcases List.mem_cons.mp member with here | later
          · rw [here, if_pos rfl] at found
            cases found.2
          · exact inductionHypothesis later found.1

/-- Leaving out assignments to other keys changes nothing for a key. -/
theorem lastAssigned_filter {key : Key} {kept : Key × Value -> Bool} (pairs : List (Key × Value))
    (keeps : forall pair, pair.1 = key -> kept pair = true) :
    lastAssigned key (pairs.filter kept) = lastAssigned key pairs := by
  induction pairs with
  | nil => rfl
  | cons pair rest inductionHypothesis =>
      rw [List.filter_cons]
      by_cases here : pair.1 = key
      · rw [if_pos (keeps pair here), lastAssigned, lastAssigned, inductionHypothesis]
      · rw [lastAssigned, if_neg here, Option.or_none, ← inductionHypothesis]
        cases kept pair with
        | false => rfl
        | true =>
            change lastAssigned key (pair :: rest.filter kept) = _
            rw [lastAssigned, if_neg here, Option.or_none]

/-- One more assignment. -/
theorem lastAssigned_concat {key : Key} {pairs : List (Key × Value)} {pair : Key × Value} :
    lastAssigned key (pairs ++ [pair]) = if pair.1 = key then some pair.2 else lastAssigned key pairs := by
  induction pairs with
  | nil =>
      change (none : Option Value).or _ = _
      rw [Option.none_or]
      rfl
  | cons first rest inductionHypothesis =>
      rw [List.cons_append, lastAssigned, inductionHypothesis]
      split
      · rfl
      · rfl

/-- The last assignment to a key is followed by assignments to other keys only. -/
theorem lastAssigned_eq_some_iff {key : Key} {value : Value} {pairs : List (Key × Value)} :
    lastAssigned key pairs = some value <->
      Exists fun before : List (Key × Value) => Exists fun later : List (Key × Value) =>
        pairs = before ++ (key, value) :: later ∧ forall pair, pair ∈ later -> pair.1 ≠ key := by
  constructor
  · intro found
    induction pairs with
    | nil => cases found
    | cons pair rest inductionHypothesis =>
        rw [lastAssigned] at found
        cases further : lastAssigned key rest with
        | some other =>
            rw [further] at found
            rcases inductionHypothesis (further.trans found) with ⟨before, later, shape, others⟩
            exact ⟨pair :: before, later, congrArg (pair :: ·) shape, others⟩
        | none =>
            rw [further, Option.none_or] at found
            have others : forall other, other ∈ rest -> other.1 ≠ key := by
              intro other member same
              rcases exists_lastAssigned member with ⟨known, assigned⟩
              rw [same, further] at assigned
              cases assigned
            by_cases here : pair.1 = key
            · rw [if_pos here] at found
              refine ⟨[], rest, ?_, others⟩
              rw [← Option.some.inj found, ← here]
              rfl
            · rw [if_neg here] at found
              cases found
  · rintro ⟨before, later, rfl, others⟩
    induction before with
    | nil =>
        change (lastAssigned key later).or (if key = key then some value else none) = some value
        rw [lastAssigned_of_others others, if_pos rfl, Option.none_or]
    | cons pair before inductionHypothesis =>
        rw [List.cons_append, lastAssigned, inductionHypothesis, Option.some_or]

/-- The last assignment, where each item of a list makes one. -/
theorem lastAssigned_map_iff {Item : Type} {pair : Item -> Key × Value} {key : Key} {value : Value}
    {items : List Item} :
    lastAssigned key (items.map pair) = some value <->
      Exists fun before : List Item => Exists fun item : Item => Exists fun later : List Item =>
        items = before ++ item :: later ∧ pair item = (key, value) ∧
          forall other, other ∈ later -> (pair other).1 ≠ key := by
  rw [lastAssigned_eq_some_iff]
  constructor
  · rintro ⟨before, later, shape, others⟩
    rcases List.map_eq_append_iff.mp shape with ⟨first, rest, split, _, second⟩
    rcases List.map_eq_cons_iff.mp second with ⟨item, last, divided, same, tail⟩
    refine ⟨first, item, last, split.trans (congrArg (first ++ ·) divided), same, fun other member => ?_⟩
    exact others (pair other) (tail ▸ List.mem_map_of_mem member)
  · rintro ⟨before, item, later, shape, same, others⟩
    refine ⟨before.map pair, later.map pair, ?_, List.forall_mem_map.mpr others⟩
    rw [shape, List.map_append, List.map_cons, same]

/-- Numbers are assigned to their keys in ascending order. -/
theorem lastAssigned_range {keyOf : Nat -> Key} {count : Nat} {key : Key} {number : Nat} :
    lastAssigned key ((List.range count).map fun number => (keyOf number, number)) = some number <->
      number < count ∧ keyOf number = key ∧ forall later, number < later -> later < count -> keyOf later ≠ key := by
  induction count with
  | zero => exact ⟨fun impossible => (by cases impossible), fun all => False.elim (Nat.not_lt_zero _ all.1)⟩
  | succ count inductionHypothesis =>
      rw [List.range_succ, List.map_append, List.map_singleton, lastAssigned_concat]
      by_cases here : keyOf count = key
      · rw [if_pos here, Option.some.injEq]
        constructor
        · rintro rfl
          exact ⟨Nat.lt_succ_self _, here,
            fun later above below => absurd above (Nat.not_lt.mpr (Nat.le_of_lt_succ below))⟩
        · rintro ⟨inside, _, others⟩
          by_contra different
          exact others count (Nat.lt_of_le_of_ne (Nat.le_of_lt_succ inside) (Ne.symm different)) (Nat.lt_succ_self _)
            here
      · rw [if_neg here, inductionHypothesis]
        constructor
        · rintro ⟨inside, same, others⟩
          refine ⟨Nat.lt_succ_of_lt inside, same, fun later above below => ?_⟩
          rcases Nat.lt_succ_iff_lt_or_eq.mp below with before | last
          · exact others later above before
          · rw [last]
            exact here
        · rintro ⟨inside, same, others⟩
          refine ⟨?_, same, fun later above below => others later above (Nat.lt_succ_of_lt below)⟩
          rcases Nat.lt_succ_iff_lt_or_eq.mp inside with before | last
          · exact before
          · exact absurd (last ▸ same) here

end Assignments

section LastItem

variable {Item : Type} {kept : Item -> Bool} {items : List Item} {item : Item}

/-- The last of some items with a property. -/
theorem getLast?_filter_eq_some_iff : (items.filter kept).getLast? = some item <->
      Exists fun before : List Item => Exists fun later : List Item =>
        items = before ++ item :: later ∧ kept item = true ∧ forall other, other ∈ later -> kept other = false := by
  rw [List.getLast?_eq_head?_reverse, ← List.filter_reverse, List.head?_filter, List.find?_eq_some_iff_append]
  constructor
  · rintro ⟨holds, after, before, shape, others⟩
    refine ⟨before.reverse, after.reverse, ?_, holds, fun other member => ?_⟩
    · rw [← List.reverse_reverse items, shape, List.reverse_append, List.reverse_cons, List.append_assoc]
      rfl
    · exact (Bool.not_eq_true' _).mp (others other (List.mem_reverse.mp member))
  · rintro ⟨before, later, shape, holds, others⟩
    refine ⟨holds, later.reverse, before.reverse, ?_, fun other member => ?_⟩
    · rw [shape, List.reverse_append, List.reverse_cons, List.append_assoc]
      rfl
    · rw [others other (List.mem_reverse.mp member)]
      rfl

/-- Of items with a property there is a last one. -/
theorem exists_last (property : Item -> Prop) (member : item ∈ items) (holds : property item) :
    Exists fun before : List Item => Exists fun last : Item => Exists fun later : List Item =>
      items = before ++ last :: later ∧ property last ∧ forall other, other ∈ later -> ¬ property other := by
  classical
  cases found : (items.filter fun item => decide (property item)).getLast? with
  | none =>
      have inside : item ∈ items.filter fun item => decide (property item) :=
        List.mem_filter.mpr ⟨member, decide_eq_true holds⟩
      rw [List.getLast?_eq_none_iff.mp found] at inside
      cases inside
  | some last =>
      rcases getLast?_filter_eq_some_iff.mp found with ⟨before, later, shape, here, others⟩
      exact ⟨before, last, later, shape, of_decide_eq_true here,
        fun other inside => of_decide_eq_false (others other inside)⟩

end LastItem
end Library
end CrashPython

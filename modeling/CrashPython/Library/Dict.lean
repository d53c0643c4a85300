import CrashPython.Library.Assignments
import Mathlib.Data.List.Nodup

namespace CrashPython
namespace Library

/-!
Dictionaries with the order of their keys.

A key keeps the place of its first assignment and the value of its last one.  The list of the keys
has no repetitions, and it has exactly the keys with a value; a dictionary carries both facts.
-/

/-- A dictionary. -/
structure Dict (Key Value : Type) where
  keys : List Key
  value : Key -> Option Value
  once : keys.Nodup
  known : forall key, key ∈ keys <-> (value key).isSome = true

namespace Dict

variable {Key Value : Type}

/-- The dictionary without keys. -/
def empty : Dict Key Value where
  keys := []
  value := fun _ => none
  once := List.nodup_nil
  known := fun key => ⟨fun member => False.elim (List.not_mem_nil member), fun some => by cases some⟩

/-- The values, in the order of their keys. -/
def values (dictionary : Dict Key Value) : List Value :=
  dictionary.keys.filterMap dictionary.value

theorem mem_values {dictionary : Dict Key Value} {value : Value} :
    value ∈ dictionary.values <-> Exists fun key : Key => dictionary.value key = some value := by
  rw [values, List.mem_filterMap]
  constructor
  · rintro ⟨key, _, found⟩
    exact ⟨key, found⟩
  · rintro ⟨key, found⟩
    exact ⟨key, (dictionary.known key).mpr (by rw [found]; rfl), found⟩

/-- Where each value names its key, the values have different keys. -/
theorem values_map_key {dictionary : Dict Key Value} (keyOf : Value -> Key)
    (names : forall key value, dictionary.value key = some value -> keyOf value = key) :
    dictionary.values.map keyOf = dictionary.keys := by
  have found : forall key, key ∈ dictionary.keys -> (dictionary.value key).map keyOf = some key := by
    intro key member
    rcases Option.isSome_iff_exists.mp ((dictionary.known key).mp member) with ⟨value, here⟩
    rw [here, Option.map_some, names key value here]
  rw [values, List.map_filterMap, List.filterMap_congr found, List.filterMap_some]

variable [DecidableEq Key]

/-- Assign a value to a key. -/
def set (dictionary : Dict Key Value) (key : Key) (value : Value) : Dict Key Value where
  keys := if key ∈ dictionary.keys then dictionary.keys else dictionary.keys ++ [key]
  value := Function.update dictionary.value key (some value)
  once := by
    by_cases member : key ∈ dictionary.keys
    · rw [if_pos member]
      exact dictionary.once
    · rw [if_neg member, ← List.concat_eq_append]
      exact dictionary.once.concat member
  known := by
    intro other
    by_cases same : other = key
    · rw [same, Function.update_self]
      by_cases member : key ∈ dictionary.keys
      · rw [if_pos member]
        exact ⟨fun _ => rfl, fun _ => member⟩
      · rw [if_neg member]
        exact ⟨fun _ => rfl, fun _ => List.mem_append_right _ List.mem_cons_self⟩
    · rw [Function.update_of_ne same, ← dictionary.known]
      by_cases member : key ∈ dictionary.keys
      · rw [if_pos member]
      · rw [if_neg member, List.mem_append, List.mem_singleton, or_iff_left same]

/-- Assignments from left to right. -/
def setAll (dictionary : Dict Key Value) (pairs : List (Key × Value)) : Dict Key Value :=
  pairs.foldl (fun dictionary pair => dictionary.set pair.1 pair.2) dictionary

theorem setAll_value (dictionary : Dict Key Value) (pairs : List (Key × Value)) :
    (dictionary.setAll pairs).value = assign dictionary.value pairs := by
  induction pairs generalizing dictionary with
  | nil => rfl
  | cons pair rest inductionHypothesis => exact inductionHypothesis (dictionary.set pair.1 pair.2)

/-- What is assigned to new keys has the order of the assignments. -/
theorem setAll_keys (dictionary : Dict Key Value) {pairs : List (Key × Value)}
    (different : (dictionary.keys ++ pairs.map Prod.fst).Nodup) :
    (dictionary.setAll pairs).keys = dictionary.keys ++ pairs.map Prod.fst := by
  induction pairs generalizing dictionary with
  | nil => exact (List.append_nil _).symm
  | cons pair rest inductionHypothesis =>
      have new : pair.1 ∉ dictionary.keys := by
        intro member
        exact List.disjoint_of_nodup_append different member List.mem_cons_self
      have extended : (dictionary.set pair.1 pair.2).keys = dictionary.keys ++ [pair.1] := if_neg new
      have shape : dictionary.keys ++ (pair :: rest).map Prod.fst =
          (dictionary.set pair.1 pair.2).keys ++ rest.map Prod.fst := by
        rw [extended, List.append_assoc, List.map_cons, List.singleton_append]
      rw [shape] at different ⊢
      exact inductionHypothesis (dictionary.set pair.1 pair.2) different

/-- A list of assignments to different keys gives all its values back. -/
theorem values_setAll {pairs : List (Key × Value)} (different : (pairs.map Prod.fst).Nodup) :
    (empty.setAll pairs).values = pairs.map Prod.snd := by
  have known : forall pair, pair ∈ pairs -> (empty.setAll pairs).value pair.1 = some pair.2 := by
    intro pair member
    rw [setAll_value, assign_apply, empty, Option.or_none]
    rcases exists_lastAssigned member with ⟨value, found⟩
    have same := List.inj_on_of_nodup_map different (mem_of_lastAssigned found) member rfl
    rw [found, ← same]
  have keys : (empty.setAll pairs).keys = pairs.map Prod.fst := setAll_keys empty different
  rw [values, keys, List.filterMap_map]
  exact (List.filterMap_congr known).trans (congrFun List.filterMap_eq_map pairs)

end Dict
end Library
end CrashPython

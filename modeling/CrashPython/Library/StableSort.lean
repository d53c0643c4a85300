import CrashPython.Library.Reads
import Mathlib.Data.List.Sort

namespace CrashPython
namespace Library

/-!
Sorting by a key.

Values with the same key keep their order.  This is why leaving some values out before the sorting
is the same as leaving them out afterwards.  A key can be the result of a computation that fails, and
then nothing is sorted: the keys of all values are computed first.
-/

section StableSort

variable {Value Key : Type} [LinearOrder Key] {key : Value -> Key}

/-- `sorted` of Python, with a key. -/
def sortedBy (key : Value -> Key) (values : List Value) : List Value :=
  values.insertionSort fun first second => key first ≤ key second

theorem perm_sortedBy (values : List Value) : (sortedBy key values).Perm values :=
  List.perm_insertionSort _ values

theorem mem_sortedBy {value : Value} {values : List Value} : value ∈ sortedBy key values <-> value ∈ values :=
  List.mem_insertionSort _

theorem pairwise_sortedBy (key : Value -> Key) (values : List Value) :
    (sortedBy key values).Pairwise fun first second => key first ≤ key second := by
  have total : Std.Total fun first second : Value => key first ≤ key second :=
    ⟨fun first second => le_total (key first) (key second)⟩
  have transitive : IsTrans Value fun first second => key first ≤ key second :=
    ⟨fun first second third left right => le_trans left right⟩
  exact List.pairwise_insertionSort _ values

/-- A value goes before the first value of a sorted list that it is not above. -/
theorem orderedInsert_filter (kept : Value -> Bool) (value : Value) {values : List Value}
    (sorted : values.Pairwise fun first second => key first ≤ key second) :
    (values.orderedInsert (fun first second => key first ≤ key second) value).filter kept =
      if kept value = true then
        (values.filter kept).orderedInsert (fun first second => key first ≤ key second) value
      else values.filter kept := by
  induction values with
  | nil =>
      rw [List.orderedInsert_nil, List.filter_nil, List.orderedInsert_nil, List.filter_cons, List.filter_nil]
  | cons first rest inductionHypothesis =>
      rcases List.pairwise_cons.mp sorted with ⟨least, others⟩
      rw [List.orderedInsert_cons]
      by_cases before : key value ≤ key first
      · rw [if_pos before, List.filter_cons]
        split
        · symm
          cases shape : (first :: rest).filter kept with
          | nil => rfl
          | cons other later =>
              have member : other ∈ first :: rest :=
                (List.mem_filter.mp (shape ▸ List.mem_cons_self : other ∈ (first :: rest).filter kept)).1
              have bound : key first ≤ key other := by
                rcases List.mem_cons.mp member with rfl | inside
                · exact le_refl _
                · exact least other inside
              rw [List.orderedInsert_cons, if_pos (le_trans before bound)]
        · rfl
      · rw [if_neg before, List.filter_cons, inductionHypothesis others, List.filter_cons]
        cases kept first with
        | false => rfl
        | true =>
            rw [if_pos rfl, if_pos rfl]
            split
            · rw [List.orderedInsert_cons, if_neg before]
            · rfl

/-- Leaving values out and sorting can be exchanged. -/
theorem filter_sortedBy (kept : Value -> Bool) (values : List Value) :
    (sortedBy key values).filter kept = sortedBy key (values.filter kept) := by
  induction values with
  | nil => rfl
  | cons value rest inductionHypothesis =>
      have sorted := pairwise_sortedBy key rest
      change ((sortedBy key rest).orderedInsert _ value).filter kept = _
      rw [orderedInsert_filter kept value sorted, inductionHypothesis, List.filter_cons]
      split
      · rfl
      · rfl

/-- Values with the same key keep their order. -/
theorem filter_sortedBy_key (wanted : Key) (values : List Value) :
    (sortedBy key values).filter (fun value => key value == wanted) =
      values.filter fun value => key value == wanted := by
  rw [filter_sortedBy]
  refine List.Pairwise.insertionSort_eq (List.pairwise_of_forall_mem_list ?_)
  intro first here second there
  have one := beq_iff_eq.mp (List.mem_filter.mp here).2
  have two := beq_iff_eq.mp (List.mem_filter.mp there).2
  exact le_of_eq (one.trans two.symm)

/-- `sorted`, with a key that can raise an exception. -/
def sortedByKeys {Error : Type} (key : Value -> Except Error Key) (values : List Value) :
    Except Error (List Value) := do
  let keyed ← values.mapM fun value => (key value).map fun found => (found, value)
  return (sortedBy Prod.fst keyed).map Prod.snd

/-- Sorting succeeds if all keys are found, and it is then sorting by them. -/
theorem sortedByKeys_of_found {Error : Type} (key : Value -> Key) {found : Value -> Except Error Key}
    {values : List Value} (all : forall value, value ∈ values -> found value = .ok (key value)) :
    sortedByKeys found values = .ok (sortedBy key values) := by
  have pairs : (sortedBy Prod.fst (values.map fun value => (key value, value))).map Prod.snd =
      sortedBy key values := by
    have places : sortedBy Prod.fst (values.map fun value => (key value, value)) =
        (sortedBy key values).map fun value => (key value, value) :=
      (List.map_insertionSort _ _ (fun value => (key value, value)) values fun first _ second _ => Iff.rfl).symm
    rw [places, List.map_map]
    exact List.map_id _
  have keyed : (values.mapM fun value => (found value).map fun key => (key, value)) =
      .ok (values.map fun value => (key value, value)) :=
    mapM_of_found fun value member => by rw [all value member]; rfl
  rw [sortedByKeys, keyed, ← pairs]
  rfl

/-- What sorting needs. -/
theorem found_of_sortedByKeys {Error : Type} {found : Value -> Except Error Key} {values sorted : List Value}
    (succeeded : sortedByKeys found values = .ok sorted) :
    forall value, value ∈ values -> Exists fun key : Key => found value = .ok key := by
  intro value member
  rcases except_bind_ok.mp succeeded with ⟨pairs, keyed, _⟩
  rcases found_of_mapM keyed value member with ⟨pair, here⟩
  exact ⟨pair.1, except_map_pair here⟩

end StableSort
end Library
end CrashPython

import CrashPython.Library.Script

namespace CrashPython
namespace Library

/-!
Reads that are made for all items of a list.

They succeed together or the first one that fails is what is left of them.
-/

variable {Error Item Result : Type} {read : Item -> Except Error Result} {items : List Item}

/-- Reads that all succeed. -/
theorem mapM_of_found {result : Item -> Result}
    (all : forall item, item ∈ items -> read item = .ok (result item)) :
    items.mapM read = .ok (items.map result) := by
  induction items with
  | nil => rfl
  | cons item rest inductionHypothesis =>
      rcases List.forall_mem_cons.mp all with ⟨here, others⟩
      rw [List.mapM_cons, here, inductionHypothesis others]
      rfl

/-- Reads that have been made, each in its place. -/
theorem mapM_getElem? {results : List Result} (all : items.mapM read = .ok results) {place : Nat} {item : Item}
    (here : items[place]? = some item) :
    Exists fun result : Result => read item = .ok result ∧ results[place]? = some result := by
  induction items generalizing place results with
  | nil => cases here
  | cons first rest inductionHypothesis =>
      rw [List.mapM_cons] at all
      rcases except_bind_ok.mp all with ⟨result, found, continued⟩
      rcases except_bind_ok.mp continued with ⟨others, later, same⟩
      cases same
      cases place with
      | zero =>
          cases here
          exact ⟨result, found, rfl⟩
      | succ place => exact inductionHypothesis later here

theorem found_of_mapM {results : List Result} (all : items.mapM read = .ok results) :
    forall item, item ∈ items -> Exists fun result : Result => read item = .ok result := by
  intro item member
  rcases List.getElem?_of_mem member with ⟨place, here⟩
  rcases mapM_getElem? all here with ⟨result, found, _⟩
  exact ⟨result, found⟩

/-- A fold that succeeds has made all its steps. -/
theorem found_of_foldlM {Carried : Type} {step : Carried -> Item -> Except Error Carried}
    {start result : Carried} (all : items.foldlM step start = .ok result) :
    forall item, item ∈ items -> Exists fun carried : Carried => Exists fun next : Carried =>
      step carried item = .ok next := by
  induction items generalizing start with
  | nil => exact fun item member => False.elim (List.not_mem_nil member)
  | cons first rest inductionHypothesis =>
      rw [List.foldlM_cons] at all
      rcases except_bind_ok.mp all with ⟨next, made, continued⟩
      intro item member
      rcases List.mem_cons.mp member with rfl | later
      · exact ⟨start, next, made⟩
      · exact inductionHypothesis continued item later

/-- A computation with its argument. -/
theorem except_map_pair {key : Except Error Result} {item : Item} {pair : Result × Item}
    (found : key.map (fun result => (result, item)) = .ok pair) : key = .ok pair.1 := by
  cases key with
  | error error => cases found
  | ok result =>
      cases found
      rfl

end Library
end CrashPython

import CrashPython.Library.Script
import CrashPython.Slab.SlabLists
import CrashPython.Slab.SlabObjects

namespace CrashPython
namespace Slab

open Library Types

/-!
# The check of the array caches

`check_array_caches` looks up the slab of every pointer in the array caches.  It has a
message for a pointer in no slab, one for a pointer in the slab of another cache, and two
for a pointer that is not an object.  All of them also print where the pointer was found,
in the format of a number.  But what the dictionary holds for a pointer is a dictionary, and
Python refuses to format one in this way.  So there is no message, and the exception ends
the check.
-/

/-- What a message can print. -/
inductive PythonValue where
  | number (value : Nat)
  | dictionary (entry : ArrayCacheEntry)

/-- The format `x`. -/
def PythonValue.hex : PythonValue -> Except SlabException String
  | .number value => .ok (String.ofList (Nat.toDigits 16 value))
  | .dictionary _ => .error .typeError

/-- What `check_array_caches` finds wrong with a pointer, with the answer of `contains_obj`
in the last two cases. -/
inductive PointerProblem where
  | noSlab
  | wrongCache (name : String)
  | notAllocated (answer : Bool × Nat × Option String)
  | wrongOffset (answer : Bool × Nat × Option String)

/-- A truth value in a message. -/
def boolText (value : Bool) : String :=
  if value then "True" else "False"

/-- The ends of the messages. -/
def PointerProblem.text : PointerProblem -> String
  | .noSlab => "not found in any slab"
  | .wrongCache name => "belongs to wrong kmem cache " ++ name
  | .notAllocated answer =>
      "is not allocated: (" ++ boolText answer.1 ++ ", " ++ toString answer.2.1 ++ ", " ++
        answer.2.2.elim "None" (fun text => "'" ++ text ++ "'") ++ ")"
  | .wrongOffset answer =>
      "has wrong offset: (" ++ boolText answer.1 ++ ", " ++ hexAddress answer.2.1 ++ ", " ++
        answer.2.2.getD "None" ++ ")"

/-- The message that `_pr_err` is called with. -/
def pointerMessage (ptr : Nat) (entry : ArrayCacheEntry) (problem : PointerProblem) :
    Except SlabException String := do
  let address <- (PythonValue.number ptr).hex
  let place <- (PythonValue.dictionary entry).hex
  return ": cached pointer 0x" ++ address ++ " in 0x" ++ place ++ " " ++ problem.text

namespace KmemCacheSLAB

variable (cache : KmemCacheSLAB)

/-- The branches of `check_array_caches`. -/
def pointerProblem (ptr : Nat) : Except SlabException (Option PointerProblem) := do
  let found <- SlabSLAB.fromObjAddr cache.toSlabSystem ptr
  match found with
  | none => return some .noSlab
  | some owner =>
      if owner.1.address ≠ cache.address then return some (.wrongCache owner.1.name)
      else do
        let answer <- owner.2.containsObj ptr
        if answer.1 = false ∧ answer.2.2 = none then return some (.notAllocated answer)
        else if answer.2.1 ≠ ptr then return some (.wrongOffset answer)
        else return none

/-- A pointer that should not be in an array cache of this cache: it is in no slab, in a slab
of another cache, known or not, or not at the start of an object. -/
inductive BadPointer (ptr : Nat) : Prop where
  | noSlab (found : SlabSLAB.fromObjAddr cache.toSlabSystem ptr = .ok none)
  | otherCache {owner : Sigma SlabSLAB}
      (found : SlabSLAB.fromObjAddr cache.toSlabSystem ptr = .ok (some owner))
      (foreign : owner.1.address ≠ cache.address)
  | unknownCache {address : Nat}
      (found : SlabSLAB.fromObjAddr cache.toSlabSystem ptr = .error (.kmemCacheNotFound address))
      (foreign : address ≠ cache.address)
  | noObject {owner : Sigma SlabSLAB}
      (found : SlabSLAB.fromObjAddr cache.toSlabSystem ptr = .ok (some owner))
      (own : owner.1.address = cache.address) (away : ptr ∉ owner.2.getObjects)

/-- The check of a pointer comes to a call of `_pr_err`. -/
def Reported (entry : Nat × ArrayCacheEntry) : Prop :=
  Exists fun problem : PointerProblem => Exists fun text : String =>
    cache.pointerProblem entry.1 = .ok (some problem) ∧
      pointerMessage entry.1 entry.2 problem = .ok text

/-- The dictionary that is checked. -/
def dictionary (before : CacheState) : List (Nat × ArrayCacheEntry) :=
  (finalState (cache.getArrayCaches.run before.caches)).table

/-- The check reports every bad pointer, and is not left by an exception of its own. -/
structure ReportsBadPointers (before : CacheState) : Prop where
  reported : forall entry, entry ∈ cache.dictionary before -> cache.BadPointer entry.1 ->
    cache.Reported entry
  unaborted : forall table caches, cache.getArrayCaches.run before.caches = .ok table caches ->
    forall after, cache.checkArrayCaches.run before ≠ .error .typeError after

variable {cache}

/-- No message can be made. -/
theorem pointerMessage_fails (ptr : Nat) (entry : ArrayCacheEntry) (problem : PointerProblem) :
    pointerMessage ptr entry problem = .error .typeError :=
  rfl

theorem not_reported (entry : Nat × ArrayCacheEntry) : ¬ cache.Reported entry := by
  rintro ⟨problem, text, _, made⟩
  rw [pointerMessage_fails] at made
  cases made

/-- The check of a pointer is to find its problem, make the message and call `_pr_err`; which
is never called. -/
theorem checkCachedPointer_eq (prErr : String -> CacheM PUnit) (entry : Nat × ArrayCacheEntry) :
    cache.checkCachedPointer entry.1 = (do
      let problem <- raising (cache.pointerProblem entry.1)
      problem.forM fun problem => do
        let message <- raising (pointerMessage entry.1 entry.2 problem)
        prErr message) := by
  simp only [checkCachedPointer, pointerProblem]
  cases SlabSLAB.fromObjAddr cache.toSlabSystem entry.1 with
  | error error => rfl
  | ok found =>
      cases found with
      | none => rfl
      | some owner =>
          change (if owner.1.address ≠ cache.address then _ else _) =
            (raising (if owner.1.address ≠ cache.address then _ else _) >>= _)
          by_cases foreign : owner.1.address ≠ cache.address
          · rw [if_pos foreign, if_pos foreign]
            rfl
          · rw [if_neg foreign, if_neg foreign]
            cases owner.2.containsObj entry.1 with
            | error error => rfl
            | ok answer =>
                change (if answer.1 = false ∧ answer.2.2 = none then _ else _) =
                  (raising (if answer.1 = false ∧ answer.2.2 = none then _ else _) >>= _)
                by_cases unnamed : answer.1 = false ∧ answer.2.2 = none
                · rw [if_pos unnamed, if_pos unnamed]
                  rfl
                · rw [if_neg unnamed, if_neg unnamed]
                  by_cases differs : answer.2.1 ≠ entry.1
                  · rw [if_pos differs, if_pos differs]
                    rfl
                  · rw [if_neg differs, if_neg differs]
                    rfl

/-! ## When nothing is wrong -/

/-- `contains_obj` gives the address of an object for that object. -/
theorem containsObj_of_mem {owner : KmemCacheSLAB} {slab : SlabSLAB owner} {ptr : Nat}
    (member : ptr ∈ slab.getObjects) {answer : Bool × Nat × Option String}
    (answered : slab.containsObj ptr = .ok answer) :
    ¬ (answer.1 = false ∧ answer.2.2 = none) ∧ answer.2.1 = ptr := by
  simp only [SlabSLAB.containsObj] at answered
  by_cases sized : 0 < owner.bufferSize
  · rw [(SlabSLAB.findsObjects sized).itself ptr member] at answered
    cases ptr with
    | zero =>
        cases answered
        constructor
        · rintro ⟨_, impossible⟩
          cases impossible
        · rfl
    | succ before =>
        cases answered
        constructor
        · rintro ⟨impossible, _⟩
          cases impossible
        · rfl
  · have whole : owner.bufferSize = 0 := Nat.eq_zero_of_not_pos sized
    rcases List.mem_map.mp member with ⟨idx, _, rfl⟩
    have above : ¬ slab.objectAt idx < slab.sMem := Nat.not_lt.mpr (Nat.le_add_right _ _)
    simp only [SlabSLAB.findObj] at answered
    rw [if_neg above, if_pos whole] at answered
    cases answered

theorem containsObj_error {owner : KmemCacheSLAB} {slab : SlabSLAB owner} {ptr : Nat}
    {error : SlabException} (failed : slab.containsObj ptr = .error error) :
    error = .zeroDivision := by
  rcases except_bind_error.mp failed with lookup | ⟨found, _, impossible⟩
  · simp only [SlabSLAB.findObj] at lookup
    split at lookup
    · cases lookup
    · split at lookup
      · cases lookup
        rfl
      · change (if owner.objsPerSlab ≤ _ then _ else _) = _ at lookup
        split at lookup
        · cases lookup
        · cases lookup
  · split at impossible
    · cases impossible
    · cases impossible
    · cases impossible

theorem fetched_error {Value : Type} {read : Except GdbError Value} {error : SlabException}
    (failed : fetched read = .error error) : error ≠ .typeError := by
  cases read with
  | ok value => cases failed
  | error failure =>
      cases failed
      exact fun impossible => by cases impossible

/-- The lookup of a slab reads memory, and may miss a cache. -/
theorem fromObjAddr_error {system : SlabSystem} {ptr : Nat} {error : SlabException}
    (failed : SlabSLAB.fromObjAddr system ptr = .error error) : error ≠ .typeError := by
  rcases except_bind_error.mp failed with read | ⟨page, _, failed⟩
  · exact fetched_error read
  · split at failed
    · cases made : SlabSLAB.fromPage system page with
      | ok slab =>
          rw [made] at failed
          cases failed
      | error other =>
          rw [made] at failed
          cases failed
          rcases except_bind_error.mp made with read | ⟨address, _, made⟩
          · exact fetched_error read
          · rcases except_bind_error.mp made with missed | ⟨owner, _, made⟩
            · simp only [kmemCacheFromAddr] at missed
              split at missed
              · cases missed
                exact fun impossible => by cases impossible
              · cases missed
            · rcases except_bind_error.mp made with read | ⟨found, _, made⟩
              · exact fetched_error read
              · rcases except_bind_error.mp made with read | ⟨slab, _, impossible⟩
                · exact fetched_error read
                · cases impossible
    · cases failed

/-- What is found wrong with a pointer is wrong. -/
theorem pointerProblem_some {ptr : Nat} {problem : PointerProblem}
    (found : cache.pointerProblem ptr = .ok (some problem)) : cache.BadPointer ptr := by
  simp only [pointerProblem] at found
  rcases except_bind_ok.mp found with ⟨none | owner, located, found⟩
  · exact .noSlab located
  · change (if owner.1.address ≠ cache.address then _ else _) = _ at found
    by_cases foreign : owner.1.address ≠ cache.address
    · exact .otherCache located foreign
    · rw [if_neg foreign] at found
      rcases except_bind_ok.mp found with ⟨answer, answered, found⟩
      refine .noObject located (not_not.mp foreign) fun member => ?_
      rcases containsObj_of_mem member answered with ⟨named, same⟩
      rw [if_neg named, if_neg fun differs => differs same] at found
      cases found

theorem pointerProblem_error {ptr : Nat} {error : SlabException}
    (failed : cache.pointerProblem ptr = .error error) : error ≠ .typeError := by
  simp only [pointerProblem] at failed
  rcases except_bind_error.mp failed with lookup | ⟨none | owner, _, failed⟩
  · exact fromObjAddr_error lookup
  · cases failed
  · change (if owner.1.address ≠ cache.address then _ else _) = _ at failed
    split at failed
    · cases failed
    · rcases except_bind_error.mp failed with divided | ⟨answer, _, failed⟩
      · rw [containsObj_error divided]
        exact fun impossible => by cases impossible
      · split at failed
        · cases failed
        · split at failed
          · cases failed
          · cases failed

/-- Only a bad pointer makes the check of it fail on a message. -/
theorem bad_of_typeError {entry : Nat × ArrayCacheEntry} {before after : CacheState}
    (left : (cache.checkCachedPointer entry.1).run before = .error .typeError after) :
    cache.BadPointer entry.1 := by
  rw [checkCachedPointer_eq (fun _ => pure ⟨⟩)] at left
  cases found : cache.pointerProblem entry.1 with
  | error error =>
      rw [found] at left
      cases left
      exact False.elim (pointerProblem_error found rfl)
  | ok problem =>
      cases problem with
      | none =>
          rw [found] at left
          cases left
      | some problem => exact pointerProblem_some found

/-- An exception of the loop is that of one of its rounds. -/
theorem loop_raised {entries : List (Nat × ArrayCacheEntry)} {error : SlabException}
    {before after : CacheState}
    (left : (entries.forM fun entry => cache.checkCachedPointer entry.1).run before =
      .error error after) :
    Exists fun entry : Nat × ArrayCacheEntry => entry ∈ entries ∧
      Exists fun middle : CacheState => Exists fun final : CacheState =>
        (cache.checkCachedPointer entry.1).run middle = .error error final := by
  induction entries generalizing before with
  | nil => cases left
  | cons first rest inductionHypothesis =>
      change (cache.checkCachedPointer first.1 >>= fun _ =>
        rest.forM fun entry => cache.checkCachedPointer entry.1).run before = _ at left
      rw [EStateM.run_bind] at left
      cases ran : (cache.checkCachedPointer first.1).run before with
      | error failure state =>
          rw [ran] at left
          cases left
          exact ⟨first, List.mem_cons_self, before, after, ran⟩
      | ok value middle =>
          rw [ran] at left
          rcases inductionHypothesis left with ⟨entry, member, fails⟩
          exact ⟨entry, List.mem_cons_of_mem _ member, fails⟩

/-- The check reports the bad pointers exactly if there are none. -/
theorem checkArrayCaches_reports_iff (cache : KmemCacheSLAB) (before : CacheState) :
    cache.ReportsBadPointers before <->
      forall entry, entry ∈ cache.dictionary before -> ¬ cache.BadPointer entry.1 := by
  constructor
  · intro reports entry member bad
    exact not_reported entry (reports.reported entry member bad)
  · intro none
    refine ⟨fun entry member bad => False.elim (none entry member bad), ?_⟩
    intro table caches filled after left
    have same : cache.dictionary before = table := by
      simp only [dictionary]
      rw [filled, getArrayCaches_eq_ok filled]
      rfl
    simp only [checkArrayCaches] at left
    rw [EStateM.run_bind, EStateM.run_get] at left
    simp only [filled] at left
    rcases loop_raised left with ⟨entry, member, _, _, fails⟩
    exact none entry (same ▸ member) (bad_of_typeError fails)

/-- One processor caches two pointers, into pages that belong to no slab. -/
def strayCache : KmemCacheSLAB where
  pageSlab := true
  pageClass := { pgSlab := 128 }
  pages := fun _ => { flags := .ok 0, compoundHead := .ok 0 }
  slabs := fun _ => { inuse := .error .memoryError, sMem := .error .memoryError }
  cpusOnline := [0]
  nidsPossible := [0]
  numaNodeId := fun _ => .ok 0
  name := "size-4096"
  address := 0xffff880000800000
  bufferSize := 4096
  objsPerSlab := 1
  percpu := fun _ => .ok ⟨.ok 2, fun i => .ok (if i = 0 then 0xffff880000001000 else 0xffff880000002000)⟩
  nodelist := fun _ => .ok none

/-- Nothing is printed about either of them, and the second one is not looked at. -/
theorem checkArrayCaches_aborts :
    strayCache.dictionary {} =
        [(0xffff880000001000, ⟨.percpu, -1, 0⟩), (0xffff880000002000, ⟨.percpu, -1, 0⟩)] ∧
      strayCache.BadPointer 0xffff880000001000 ∧ strayCache.BadPointer 0xffff880000002000 ∧
      (Exists fun after : CacheState =>
        strayCache.checkArrayCaches.run {} = .error .typeError after ∧ after.reports = []) ∧
      ¬ strayCache.ReportsBadPointers {} := by
  have first : strayCache.BadPointer 0xffff880000001000 := .noSlab rfl
  refine ⟨rfl, first, .noSlab rfl, ⟨_, rfl, rfl⟩, fun reports => ?_⟩
  exact not_reported _ (reports.reported (0xffff880000001000, ⟨.percpu, -1, 0⟩) List.mem_cons_self first)

end KmemCacheSLAB
end Slab
end CrashPython

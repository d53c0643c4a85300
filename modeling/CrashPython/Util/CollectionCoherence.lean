import CrashPython.Util.DelayedCollection

namespace CrashPython
namespace Util

open Library

/-!
# Which value a read returns

The value installed for an object is its last override, or the value of its
callback if there was none.  `installed` computes it from the operations alone,
without looking at what was memoised.

A read by item or by `get` always consults the stored object.  A read by
attribute returns what was memoised, and nothing ever removes a memoised value.
The two agree as long as no value is installed for an object after one of its
names was read, which `CollectionOperation.Orderly` states for one operation.
-/

/-- What has been installed for an object. -/
structure Installation (Value : Type) where
  value : Option Value := none
  overridden : Bool := false
deriving DecidableEq, Repr

section Installing

variable {Value : Type}

def installKeys (attrs : PyString -> Option Nat) (value : Option Value) :
    List PyString -> (Nat -> Installation Value) -> Nat -> Installation Value
  | [], installations => installations
  | key :: rest, installations =>
      match attrs key with
      | none => installations
      | some index => installKeys attrs value rest (Function.update installations index ⟨value, true⟩)

/-- An override always counts.  A callback counts while there is no override,
and the first one counts where the class keeps a value. -/
def CollectionOperation.install (cls : CollectionClass) (attrs : PyString -> Option Nat)
    (guarded : Nat -> Bool) :
    CollectionOperation Value -> (Nat -> Installation Value) -> Nat -> Installation Value
  | .complete index value, installations =>
      if (installations index).overridden || (guarded index && (installations index).value.isSome) then
        installations
      else Function.update installations index ⟨value, false⟩
  | .read _ _, installations => installations
  | .override name value, installations =>
      match cls.keys name with
      | none => installations
      | some keys => installKeys attrs value keys installations

/-- The installed values after a sequence of operations. -/
def installed (cls : CollectionClass) (collection : DelayedCollection Value)
    (operations : List (CollectionOperation Value)) : Nat -> Installation Value :=
  operations.foldl (fun installations operation => operation.install cls collection.attrs
    (fun index => (collection.values index).guarded) installations) fun _ => {}

/-- None of the names of an object has been read. -/
def DelayedCollection.Unread (collection : DelayedCollection Value) (index : Nat) : Prop :=
  forall name, collection.attrs name = some index -> collection.instanceAttrs name = none

/-- A value is installed only for an object none of whose names has been read, a
callback does not come after an override, and collected names that are read are
not attributes of the collection itself. -/
def CollectionOperation.Orderly (cls : CollectionClass) (collection : DelayedCollection Value)
    (installations : Nat -> Installation Value) : CollectionOperation Value -> Prop
  | .complete index _ =>
      ((collection.values index).guarded = true ∧ (collection.values index).value.isSome = true) ∨
        ((installations index).overridden = false ∧ collection.Unread index)
  | .read _ name => collection.attrs name ≠ none -> cls.plain name = true
  | .override name _ => forall keys, cls.keys name = some keys ->
      forall key, key ∈ keys -> forall index, collection.attrs key = some index -> collection.Unread index

/-- Every operation is orderly in the state it finds. -/
def OrderlyRun (cls : CollectionClass) :
    DelayedCollection Value -> (Nat -> Installation Value) -> List (CollectionOperation Value) -> Prop
  | _, _, [] => True
  | collection, installations, operation :: rest =>
      operation.Orderly cls collection installations ∧
        OrderlyRun cls (operation.run cls collection)
          (operation.install cls collection.attrs (fun index => (collection.values index).guarded)
            installations) rest

end Installing

/-! ## The invariant -/

/-- The stored values are the installed ones, and a memoised value is the one
that is stored. -/
structure Coherent {Value : Type} (cls : CollectionClass) (collection : DelayedCollection Value)
    (installations : Nat -> Installation Value) : Prop where
  stored : forall index, (collection.values index).value = (installations index).value
  memoised : forall name value, collection.instanceAttrs name = some value ->
    cls.plain name = true ∧ Exists fun index : Nat =>
      collection.attrs name = some index ∧ (collection.values index).value = some value

namespace Coherent

variable {Value : Type} {cls : CollectionClass} {collection : DelayedCollection Value}
variable {installations : Nat -> Installation Value}

theorem create (cls : CollectionClass) (declared : List Declaration) :
    Coherent cls (DelayedCollection.create declared : DelayedCollection Value) fun _ => {} where
  stored := fun _ => rfl
  memoised := fun _ _ impossible => by cases impossible

/-- Nothing that the class uses for itself is ever memoised. -/
theorem unshadowed (coherent : Coherent cls collection installations) {name : PyString}
    (reserved : cls.plain name = false) : collection.instanceAttrs name = none := by
  cases found : collection.instanceAttrs name with
  | none => rfl
  | some value =>
      rw [(coherent.memoised name value found).1] at reserved
      cases reserved

/-- A value may be installed for an object that has not been read. -/
theorem setValue (coherent : Coherent cls collection installations) {index : Nat}
    (unread : collection.Unread index) (value : Option Value) (overridden : Bool) :
    Coherent cls (collection.setValue index { collection.values index with value := value })
      (Function.update installations index ⟨value, overridden⟩) where
  stored := by
    intro other
    by_cases same : other = index
    · subst same
      rw [DelayedCollection.setValue_self, Function.update_self]
    · rw [DelayedCollection.setValue_of_ne same, Function.update_of_ne same]
      exact coherent.stored other
  memoised := by
    intro name memo found
    rcases coherent.memoised name memo found with ⟨plain, other, declared, stored⟩
    refine ⟨plain, other, declared, ?_⟩
    have different : other ≠ index := by
      intro same
      subst same
      change collection.instanceAttrs name = some memo at found
      rw [unread name declared] at found
      cases found
    rw [DelayedCollection.setValue_of_ne different]
    exact stored

theorem setattr (coherent : Coherent cls collection installations) {name : PyString} {index : Nat}
    {value : Value} (plain : cls.plain name = true) (declared : collection.attrs name = some index)
    (resolved : (collection.values index).value = some value) :
    Coherent cls (collection.setattr name value) installations where
  stored := coherent.stored
  memoised := by
    intro other memo found
    by_cases same : other = name
    · subst same
      rw [DelayedCollection.setattr_self] at found
      cases found
      exact ⟨plain, index, declared, resolved⟩
    · rw [DelayedCollection.setattr_of_ne same] at found
      exact coherent.memoised other memo found

theorem overrideKeys (coherent : Coherent cls collection installations) (value : Option Value)
    (keys : List PyString)
    (unread : forall key, key ∈ keys -> forall index, collection.attrs key = some index ->
      collection.Unread index) :
    Coherent cls (collection.overrideKeys value keys).1
      (installKeys collection.attrs value keys installations) := by
  induction keys generalizing collection installations with
  | nil => exact coherent
  | cons key rest inductionHypothesis =>
      rw [DelayedCollection.overrideKeys, installKeys]
      cases found : collection.attrs key with
      | none => exact coherent
      | some index =>
          have here := unread key List.mem_cons_self index found
          apply inductionHypothesis (coherent.setValue here value true)
          intro later member
          exact unread later (List.mem_cons_of_mem _ member)

end Coherent

/-! ## Reads -/

section Reads

variable {Value : Type} {cls : CollectionClass} {collection : DelayedCollection Value}
variable {installations : Nat -> Installation Value}

theorem CollectionClass.plain_iff (cls : CollectionClass) (name : PyString) :
    cls.plain name = true <-> name ≠ attrsName ∧ name ≠ getName ∧ name ≠ overrideName ∧
      isDataDescriptor name = false ∧ cls.inherited name = false := by
  simp only [CollectionClass.plain, Bool.and_eq_true, Bool.not_eq_true', decide_eq_false_iff_not,
    and_assoc, ne_eq]

theorem CollectionClass.reserved (cls : CollectionClass) :
    cls.plain attrsName = false ∧ cls.plain getName = false ∧ cls.plain overrideName = false := by
  refine ⟨?_, ?_, ?_⟩
  · rfl
  · rfl
  · rfl

/-- A call of `get` succeeds exactly when nothing it needs is shadowed and a
value is stored. -/
theorem DelayedCollection.callGet_ok_iff (name : PyString) (collection : DelayedCollection Value)
    (value : Value) :
    (collection.callGet name).2 = .ok (.collected value) <->
      collection.instanceAttrs getName = none ∧ collection.instanceAttrs attrsName = none ∧
        (Exists fun index : Nat => collection.attrs name = some index ∧
          (collection.values index).value = some value) ∧
        isDataDescriptor name = false ∧ name ≠ attrsName := by
  rw [DelayedCollection.callGet, DelayedCollection.get]
  cases collection.instanceAttrs getName with
  | some shadow => simp
  | none =>
      cases collection.instanceAttrs attrsName with
      | some shadow => simp
      | none =>
          cases collection.attrs name with
          | none => simp
          | some index =>
              cases stored : (collection.values index).value with
              | none => simp [stored]
              | some current =>
                  cases isDataDescriptor name with
                  | true => simp [stored]
                  | false =>
                      by_cases reserved : name = attrsName
                      · simp [stored, reserved]
                      · simp [stored, reserved]

/-- A successful read by item memoises the value. -/
theorem DelayedCollection.getItem_of_stored {name : PyString} (collection : DelayedCollection Value)
    {value : Value}
    (stored : collection.instanceAttrs getName = none ∧ collection.instanceAttrs attrsName = none ∧
      (Exists fun index : Nat => collection.attrs name = some index ∧
        (collection.values index).value = some value) ∧
      isDataDescriptor name = false ∧ name ≠ attrsName) :
    (collection.getItem name).1 = collection.setattr name value := by
  rcases stored with ⟨getFree, attrsFree, ⟨index, found, present⟩, ordinary, notAttrs⟩
  rw [DelayedCollection.getItem, DelayedCollection.callGet, DelayedCollection.get, getFree, attrsFree, found]
  simp only [present, ordinary, notAttrs, Option.isSome_none, Bool.false_eq_true, if_false]

/-- What a read does to the collection: nothing, or it memoises the stored
value. -/
theorem DelayedCollection.get_state (name : PyString) (collection : DelayedCollection Value) :
    (collection.get name).1 = collection ∨ Exists fun index : Nat => Exists fun value : Value =>
      collection.attrs name = some index ∧ (collection.values index).value = some value ∧
        (collection.get name).1 = collection.setattr name value := by
  rw [DelayedCollection.get]
  split
  · exact Or.inl rfl
  · split
    · exact Or.inl rfl
    · rename_i index found
      split
      · exact Or.inl rfl
      · rename_i value resolved
        split
        · exact Or.inl rfl
        · refine Or.inr ⟨index, value, found, resolved, ?_⟩
          split <;> rfl

theorem DelayedCollection.callGet_state (name : PyString) (collection : DelayedCollection Value) :
    (collection.callGet name).1 = collection ∨ (collection.callGet name).1 = (collection.get name).1 := by
  rw [DelayedCollection.callGet]
  split
  · exact Or.inl rfl
  · exact Or.inr rfl

theorem DelayedCollection.read_state (cls : CollectionClass) (path : AccessPath) (name : PyString)
    (collection : DelayedCollection Value) :
    (collection.read cls path name).1 = collection ∨
      (collection.read cls path name).1 = (collection.get name).1 := by
  have called := collection.callGet_state name
  cases path with
  | byGet => exact called
  | byItem =>
      rw [DelayedCollection.read, DelayedCollection.getItem]
      split
      · rename_i after missing result
        rw [result] at called
        exact called
      · exact called
  | byAttribute =>
      rw [DelayedCollection.read, DelayedCollection.getAttribute]
      split
      · exact Or.inl rfl
      · split
        · exact Or.inl rfl
        · split
          · split
            · rename_i after missing result
              rw [result] at called
              exact called
            · exact called
          · exact Or.inl rfl

/-- Reading an orderly name keeps the collection coherent. -/
theorem Coherent.read (coherent : Coherent cls collection installations) (path : AccessPath)
    {name : PyString} (plain : collection.attrs name ≠ none -> cls.plain name = true) :
    Coherent cls (collection.read cls path name).1 installations := by
  rcases collection.read_state cls path name with same | got
  · rw [same]
    exact coherent
  · rw [got]
    rcases collection.get_state name with same | ⟨index, value, declared, resolved, memoised⟩
    · rw [same]
      exact coherent
    · rw [memoised]
      apply coherent.setattr (plain ?_) declared resolved
      rw [declared]
      exact Option.some_ne_none index

/-- In a coherent collection, `get` returns the stored value. -/
theorem Coherent.callGet (coherent : Coherent cls collection installations) {name : PyString}
    {index : Nat} {value : Value} (plain : cls.plain name = true)
    (declared : collection.attrs name = some index)
    (resolved : (installations index).value = some value) :
    (collection.callGet name).2 = .ok (.collected value) := by
  rcases cls.reserved with ⟨attrsReserved, getReserved, _⟩
  rcases (cls.plain_iff name).mp plain with ⟨notAttrs, _, _, ordinary, _⟩
  rw [← coherent.stored] at resolved
  exact (collection.callGet_ok_iff name value).mpr ⟨coherent.unshadowed getReserved,
    coherent.unshadowed attrsReserved, ⟨index, declared, resolved⟩, ordinary, notAttrs⟩

/-- Turning a `NameError` into another exception does not touch a result. -/
theorem DelayedCollection.getItem_ok_iff (name : PyString) (collection : DelayedCollection Value)
    (object : PyObject Value) :
    (collection.getItem name).2 = .ok object <-> (collection.callGet name).2 = .ok object := by
  rw [DelayedCollection.getItem]
  split
  · rename_i after missing result
    rw [result]
    simp
  · exact Iff.rfl

/-- In a coherent collection, all three ways to read agree. -/
theorem Coherent.read_value (coherent : Coherent cls collection installations) (path : AccessPath)
    {name : PyString} {index : Nat} {value : Value} (plain : cls.plain name = true)
    (declared : collection.attrs name = some index)
    (resolved : (installations index).value = some value) :
    (collection.read cls path name).2 = .ok (.collected value) := by
  have called := coherent.callGet plain declared resolved
  cases path with
  | byGet => exact called
  | byItem => exact (collection.getItem_ok_iff name _).mpr called
  | byAttribute =>
      have ordinary := ((cls.plain_iff name).mp plain).2.2.2.1
      rw [DelayedCollection.read, DelayedCollection.getAttribute, ordinary, if_neg Bool.false_ne_true]
      cases memo : collection.instanceAttrs name with
      | none =>
          simp only [plain, if_true]
          split
          · rename_i after missing result
            rw [result] at called
            cases called
          · exact called
      | some memoised =>
          rcases coherent.memoised name memoised memo with ⟨_, other, same, stored⟩
          rw [declared] at same
          cases same
          rw [coherent.stored, resolved] at stored
          cases stored
          rfl

end Reads

/-! ## Runs -/

section Runs

variable {Value : Type} {cls : CollectionClass} {collection : DelayedCollection Value}
variable {installations : Nat -> Installation Value}

/-- What no operation changes. -/
structure SameDeclarations (before after : DelayedCollection Value) : Prop where
  attrs : after.attrs = before.attrs
  guarded : forall index, (after.values index).guarded = (before.values index).guarded

theorem SameDeclarations.refl (collection : DelayedCollection Value) :
    SameDeclarations collection collection :=
  ⟨rfl, fun _ => rfl⟩

theorem SameDeclarations.trans {first second third : DelayedCollection Value}
    (left : SameDeclarations first second) (right : SameDeclarations second third) :
    SameDeclarations first third :=
  ⟨right.attrs.trans left.attrs, fun index => (right.guarded index).trans (left.guarded index)⟩

theorem SameDeclarations.setValue (collection : DelayedCollection Value) {index : Nat}
    {value : DelayedValue Value} (kept : value.guarded = (collection.values index).guarded) :
    SameDeclarations collection (collection.setValue index value) where
  attrs := rfl
  guarded := by
    intro other
    by_cases same : other = index
    · subst same
      rw [DelayedCollection.setValue_self]
      exact kept
    · rw [DelayedCollection.setValue_of_ne same]

theorem DelayedCollection.overrideKeys_declarations (value : Option Value) (keys : List PyString)
    (collection : DelayedCollection Value) :
    SameDeclarations collection (collection.overrideKeys value keys).1 := by
  induction keys generalizing collection with
  | nil => exact SameDeclarations.refl collection
  | cons key rest inductionHypothesis =>
      rw [DelayedCollection.overrideKeys]
      cases collection.attrs key with
      | none => exact SameDeclarations.refl collection
      | some index =>
          have first : SameDeclarations collection
              (collection.setValue index { collection.values index with value := value }) :=
            SameDeclarations.setValue collection rfl
          exact first.trans (inductionHypothesis _)

theorem DelayedValue.callback_guarded (value : Option Value) (delayed : DelayedValue Value) :
    (delayed.callback value).guarded = delayed.guarded := by
  rw [DelayedValue.callback]
  split
  · rfl
  · rfl

theorem CollectionOperation.run_declarations (operation : CollectionOperation Value)
    (collection : DelayedCollection Value) :
    SameDeclarations collection (operation.run cls collection) := by
  cases operation with
  | complete index value =>
      exact SameDeclarations.setValue collection (DelayedValue.callback_guarded value _)
  | read path name =>
      rw [CollectionOperation.run]
      rcases collection.read_state cls path name with same | got
      · rw [same]
        exact SameDeclarations.refl collection
      · rw [got]
        rcases collection.get_state name with same | ⟨index, value, _, _, memoised⟩
        · rw [same]
          exact SameDeclarations.refl collection
        · rw [memoised]
          exact ⟨rfl, fun _ => rfl⟩
  | override name value =>
      rw [CollectionOperation.run, DelayedCollection.override]
      split
      · exact SameDeclarations.refl collection
      · split
        · exact SameDeclarations.refl collection
        · split
          · exact SameDeclarations.refl collection
          · exact DelayedCollection.overrideKeys_declarations value _ collection

/-- An orderly operation keeps the collection coherent with what is installed. -/
theorem Coherent.run (coherent : Coherent cls collection installations)
    (operation : CollectionOperation Value) (orderly : operation.Orderly cls collection installations) :
    Coherent cls (operation.run cls collection)
      (operation.install cls collection.attrs (fun index => (collection.values index).guarded)
        installations) := by
  rcases cls.reserved with ⟨attrsReserved, _, overrideReserved⟩
  cases operation with
  | complete index value =>
      rw [CollectionOperation.run, CollectionOperation.install, DelayedValue.callback]
      have stored := coherent.stored index
      rcases orderly with ⟨guarded, present⟩ | ⟨first, unread⟩
      · rw [← stored, guarded, present, Bool.and_true, if_pos rfl, Bool.or_true, if_pos rfl,
          DelayedCollection.setValue, Function.update_eq_self]
        exact coherent
      · rw [first, Bool.false_or, ← stored]
        split
        · rw [DelayedCollection.setValue, Function.update_eq_self]
          exact coherent
        · exact coherent.setValue unread value false
  | read path name => exact coherent.read path orderly
  | override name value =>
      rw [CollectionOperation.run, CollectionOperation.install, DelayedCollection.override,
        coherent.unshadowed overrideReserved, coherent.unshadowed attrsReserved]
      simp only [Option.isSome_none, Bool.false_eq_true, if_false]
      cases keys : cls.keys name with
      | none => exact coherent
      | some keys' => exact coherent.overrideKeys value keys' (orderly keys' keys)

/-- Orderly runs keep the collection coherent with what is installed. -/
theorem Coherent.runOperations (operations : List (CollectionOperation Value))
    (coherent : Coherent cls collection installations)
    (orderly : OrderlyRun cls collection installations operations) :
    Coherent cls (collection.runOperations cls operations)
      (operations.foldl (fun installations operation => operation.install cls collection.attrs
        (fun index => (collection.values index).guarded) installations) installations) := by
  induction operations generalizing collection installations with
  | nil => exact coherent
  | cons operation rest inductionHypothesis =>
      have same : SameDeclarations collection (operation.run cls collection) :=
        operation.run_declarations collection
      have kept := inductionHypothesis (coherent.run operation orderly.1) orderly.2
      rw [same.attrs, funext same.guarded] at kept
      exact kept

theorem DelayedCollection.runOperations_declarations (operations : List (CollectionOperation Value))
    (collection : DelayedCollection Value) :
    SameDeclarations collection (collection.runOperations cls operations) := by
  induction operations generalizing collection with
  | nil => exact SameDeclarations.refl collection
  | cons operation rest inductionHypothesis =>
      exact (operation.run_declarations collection).trans (inductionHypothesis _)

theorem installKeys_keeps (attrs : PyString -> Option Nat) {value : Option Value}
    (keys : List PyString) {index : Nat} (holds : (installations index).value = value) :
    (installKeys attrs value keys installations index).value = value := by
  induction keys generalizing installations with
  | nil => exact holds
  | cons key rest inductionHypothesis =>
      rw [installKeys]
      cases attrs key with
      | none => exact holds
      | some other =>
          apply inductionHypothesis
          by_cases same : index = other
          · subst same
            rw [Function.update_self]
          · rw [Function.update_of_ne same]
            exact holds

/-- An override installs its value for every key it writes. -/
theorem installKeys_mem {attrs : PyString -> Option Nat} (value : Option Value) {keys : List PyString}
    (declared : forall key, key ∈ keys -> attrs key ≠ none) {key : PyString} {index : Nat}
    (member : key ∈ keys) (found : attrs key = some index) :
    (installKeys attrs value keys installations index).value = value := by
  induction keys generalizing installations with
  | nil => cases member
  | cons first rest inductionHypothesis =>
      rw [installKeys]
      cases here : attrs first with
      | none => exact False.elim (declared first List.mem_cons_self here)
      | some other =>
          rcases List.mem_cons.mp member with same | later
          · subst same
            rw [found] at here
            cases here
            apply installKeys_keeps
            rw [Function.update_self]
          · apply inductionHypothesis (fun key member => declared key (List.mem_cons_of_mem _ member)) later

/-- In an orderly run every read of a resolved name, in every way, returns the
last override, or the callback's value if there was none.  In particular every
key that an override has written then reads as the new value. -/
theorem read_returns_installed (cls : CollectionClass) (declared : List Declaration)
    (operations : List (CollectionOperation Value)) :
    let collection : DelayedCollection Value := DelayedCollection.create declared
    let after := collection.runOperations cls operations
    OrderlyRun cls collection (fun _ => {}) operations ->
      (forall path name index value, collection.attrs name = some index -> cls.plain name = true ->
        (installed cls collection operations index).value = some value ->
          (after.read cls path name).2 = .ok (.collected value)) ∧
      (forall path name keys value key, cls.keys name = some keys ->
        (forall other, other ∈ keys -> collection.attrs other ≠ none) ->
        (CollectionOperation.override name (some value)).Orderly cls after
          (installed cls collection operations) ->
        key ∈ keys -> cls.plain key = true ->
          ((after.override cls name (some value)).1.read cls path key).2 = .ok (.collected value)) := by
  intro collection after orderly
  have coherent : Coherent cls after (installed cls collection operations) :=
    (Coherent.create cls declared).runOperations operations orderly
  have same : SameDeclarations collection after :=
    DelayedCollection.runOperations_declarations operations collection
  constructor
  · intro path name index value found plain resolved
    rw [← same.attrs] at found
    exact coherent.read_value path plain found resolved
  · intro path name keys value key resolves present tidy member plain
    have overridden : Coherent cls (after.override cls name (some value)).1 _ := coherent.run _ tidy
    have kept : SameDeclarations after (after.override cls name (some value)).1 :=
      CollectionOperation.run_declarations (.override name (some value)) after
    cases found : collection.attrs key with
    | none => exact False.elim (present key member found)
    | some index =>
        have foundAfter : (after.override cls name (some value)).1.attrs key = some index := by
          rw [kept.attrs, same.attrs]
          exact found
        apply overridden.read_value path plain foundAfter
        rw [CollectionOperation.install, resolves]
        rw [← same.attrs] at present found
        exact installKeys_mem (some value) present member found

/-- Two symbols of a collection whose classes keep the first value.  The second
is overridden before it is read. -/
def orderlyOperations : List (CollectionOperation Nat) :=
  [ .complete 0 (some 1), .read .byAttribute "jiffies".toList, .complete 0 (some 5),
    .override "modules".toList (some 2), .read .byItem "modules".toList,
    .read .byAttribute "modules".toList, .read .byGet "jiffies".toList ]

def twoSymbols : List Declaration :=
  [ { name := "jiffies".toList, attrname := "jiffies".toList, guarded := true },
    { name := "modules".toList, attrname := "modules".toList, guarded := true } ]

theorem orderlyOperations_orderly :
    OrderlyRun .base (DelayedCollection.create twoSymbols) (fun _ => {}) orderlyOperations := by
  refine ⟨Or.inr ⟨rfl, fun _ _ => rfl⟩, fun _ => by decide, Or.inl ⟨rfl, rfl⟩, ?_, fun _ => by decide,
    fun _ => by decide, fun _ => by decide, trivial⟩
  intro keys resolves key member index found name declared
  cases resolves
  rw [List.mem_singleton.mp member] at found
  by_cases same : name = "jiffies".toList
  · rw [same] at declared
    exact absurd (found.trans declared.symm) (by decide)
  · exact DelayedCollection.setattr_of_ne same 1 _

/-- Before its first read a name may be overridden, and every read then agrees. -/
theorem read_returns_installed_twoSymbols :
    let collection : DelayedCollection Nat := DelayedCollection.create twoSymbols
    let after := collection.runOperations .base orderlyOperations
    OrderlyRun .base collection (fun _ => {}) orderlyOperations ∧
      (after.read .base .byAttribute "modules".toList).2 = .ok (.collected 2) ∧
      (after.read .base .byItem "jiffies".toList).2 = .ok (.collected 1) := by
  intro collection after
  have results := read_returns_installed .base twoSymbols orderlyOperations orderlyOperations_orderly
  refine ⟨orderlyOperations_orderly, ?_, ?_⟩
  · exact results.1 .byAttribute _ 1 2 (by decide) (by decide) (by decide)
  · exact results.1 .byItem _ 0 1 (by decide) (by decide) (by decide)

/-- A name is read by attribute and then overridden.  The stored object has the
new value, which a read by item returns, but the attribute keeps the old one. -/
theorem attribute_stale_after_override :
    let collection : DelayedCollection Nat := DelayedCollection.create twoSymbols
    let operations : List (CollectionOperation Nat) :=
      [ .complete 0 (some 1), .read .byAttribute "jiffies".toList, .override "jiffies".toList (some 2) ]
    let after := collection.runOperations .base operations
    (installed .base collection operations 0).value = some 2 ∧
      (after.read .base .byItem "jiffies".toList).2 = .ok (.collected 2) ∧
      (after.read .base .byAttribute "jiffies".toList).2 = .ok (.collected 1) := by
  exact ⟨rfl, rfl, rfl⟩

end Runs

end Util
end CrashPython

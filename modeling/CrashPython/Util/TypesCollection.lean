import CrashPython.Infra.Lookup
import CrashPython.Util.CollectionCoherence
import Mathlib.Algebra.Order.BigOperators.Group.List
import Mathlib.Algebra.Order.Group.Nat

namespace CrashPython
namespace Util

open Library Infra

/-!
# Collections of types

`Types` stores each `DelayedType` under its attribute name and under its base
name, which has lost the star of a pointer type.  A pointer type is therefore
not found under the name it was declared with, and it takes the place of the
type it points to.

`Types.Faithful` says that a list of declared names works as the documentation
of the class describes it: once all lookups have completed, every declared name
and its attribute name give the type that the name denotes, and an override
reaches these two keys and no other declared name.
-/

/-- `Types`, whose `override` resolves the name first. -/
def CollectionClass.types : CollectionClass where
  inherited := CollectionClass.base.inherited
  keys := fun name => (resolveType name).map fun resolved => [resolved.name, resolved.attrname]

namespace Types

/-- The `DelayedType` objects of a collection, unless a name is not accepted. -/
def declare : List PyString -> Option (List DelayedType)
  | [] => some []
  | name :: rest =>
      match DelayedType.create name with
      | none => none
      | some delayed => (declare rest).map (delayed :: ·)

def declaration (delayed : DelayedType) : Declaration where
  name := delayed.name
  attrname := delayed.attrname
  guarded := false

/-- Every callback runs once, in the order of the declarations. -/
def completions (lookup : PyString -> GdbType) : Nat -> List DelayedType -> List (CollectionOperation GdbType)
  | _, [] => []
  | index, delayed :: rest =>
      .complete index (some (delayed.collected lookup)) :: completions lookup (index + 1) rest

/-- The collection once all lookups have completed. -/
def completed (lookup : PyString -> GdbType) (declared : List DelayedType) : DelayedCollection GdbType :=
  DelayedCollection.runOperations .types (completions lookup 0 declared)
    (DelayedCollection.create (declared.map declaration))

/-- The collection after some reads by item. -/
def readItems (reads : List PyString) (collection : DelayedCollection GdbType) :
    DelayedCollection GdbType :=
  reads.foldl (fun collection name => (collection.getItem name).1) collection

/-- The keys under which a declared name should be found. -/
def expectedKeys (name : PyString) : List PyString :=
  [name, attributeName name]

/-- At any time after all lookups have completed, a declared name and its
attribute name give the type that the name denotes, and an override changes
these two and leaves every other declared name as it was. -/
def Faithful (names : List PyString) (declared : List DelayedType) : Prop :=
  forall (lookup : PyString -> GdbType) (reads : List PyString),
    (forall name, name ∈ names -> forall key, key ∈ expectedKeys name ->
      ((readItems reads (completed lookup declared)).getItem key).2 =
        .ok (.collected (denotes lookup name))) ∧
    (forall name, name ∈ names -> forall value,
      ((readItems reads (completed lookup declared)).override .types name (some value)).2 = none ∧
      (forall key, key ∈ expectedKeys name ->
        (((readItems reads (completed lookup declared)).override .types name (some value)).1.getItem key).2 =
          .ok (.collected value)) ∧
      (forall other, other ∈ names -> other ≠ name -> forall key, key ∈ expectedKeys other ->
        (((readItems reads (completed lookup declared)).override .types name (some value)).1.getItem key).2 =
          ((readItems reads (completed lookup declared)).getItem key).2))

/-- The key does not take a place that the collection uses for itself. -/
def usable (key : PyString) : Bool :=
  !decide (key = attrsName) && !decide (key = getName) && !decide (key = overrideName) &&
    !isDataDescriptor key

/-! ## The dictionary of a collection -/

theorem declareAll_of_notMem {index : Nat} {declared : List Declaration} {attrs : PyString -> Option Nat}
    {key : PyString}
    (absent : forall entry, entry ∈ declared -> key ≠ entry.attrname ∧ key ≠ entry.name) :
    DelayedCollection.declareAll index declared attrs key = attrs key := by
  induction declared generalizing index attrs with
  | nil => rfl
  | cons entry rest inductionHypothesis =>
      rcases absent entry List.mem_cons_self with ⟨notAttrname, notName⟩
      rw [DelayedCollection.declareAll,
        inductionHypothesis (fun later member => absent later (List.mem_cons_of_mem _ member)),
        Function.update_of_ne notName, Function.update_of_ne notAttrname]

/-- A key that belongs to one entry only refers to that entry. -/
theorem declareAll_of_unique {index position : Nat} {declared : List Declaration}
    {attrs : PyString -> Option Nat} {key : PyString} {entry : Declaration}
    (found : declared[position]? = some entry) (belongs : key = entry.attrname ∨ key = entry.name)
    (unique : forall other entry', declared[other]? = some entry' -> other ≠ position ->
      key ≠ entry'.attrname ∧ key ≠ entry'.name) :
    DelayedCollection.declareAll index declared attrs key = some (index + position) := by
  induction declared generalizing index position attrs with
  | nil => cases found
  | cons first rest inductionHypothesis =>
      rw [DelayedCollection.declareAll]
      cases position with
      | zero =>
          cases found
          rw [declareAll_of_notMem]
          · by_cases same : key = entry.name
            · rw [same, Function.update_self]
              rfl
            · rw [Function.update_of_ne same]
              rcases belongs with here | here
              · rw [here, Function.update_self]
                rfl
              · exact False.elim (same here)
          · intro later member
            rcases List.getElem?_of_mem member with ⟨offset, located⟩
            exact unique (offset + 1) later located (Nat.succ_ne_zero offset)
      | succ position =>
          rw [inductionHypothesis found, Nat.add_assoc, Nat.add_comm 1]
          intro other entry' located different
          exact unique (other + 1) entry' located (fun same => different (Nat.succ.inj same))

/-! ## Completing the lookups -/

structure Completing (lookup : PyString -> GdbType) (index : Nat) (declared : List DelayedType)
    (before after : DelayedCollection GdbType) : Prop where
  attrs : after.attrs = before.attrs
  instanceAttrs : after.instanceAttrs = before.instanceAttrs
  values : forall position delayed, declared[position]? = some delayed ->
    (after.values (index + position)).value = some (delayed.collected lookup)

theorem completions_frame (lookup : PyString -> GdbType) (index : Nat) (declared : List DelayedType)
    (collection : DelayedCollection GdbType) {other : Nat} (early : other < index) :
    (DelayedCollection.runOperations .types (completions lookup index declared) collection).values other =
      collection.values other := by
  induction declared generalizing index collection with
  | nil => rfl
  | cons delayed rest inductionHypothesis =>
      rw [completions, DelayedCollection.runOperations, List.foldl_cons]
      refine (inductionHypothesis (index + 1) _ (Nat.lt_succ_of_lt early)).trans ?_
      exact DelayedCollection.setValue_of_ne (Nat.ne_of_lt early) _ _

/-- No callback of a `DelayedType` keeps an earlier value. -/
theorem completions_spec (lookup : PyString -> GdbType) (index : Nat) (declared : List DelayedType)
    (collection : DelayedCollection GdbType)
    (replacing : forall other, index ≤ other -> other < index + declared.length ->
      (collection.values other).guarded = false) :
    Completing lookup index declared collection
      (DelayedCollection.runOperations .types (completions lookup index declared) collection) := by
  induction declared generalizing index collection with
  | nil => exact ⟨rfl, rfl, fun _ _ impossible => by cases impossible⟩
  | cons delayed rest inductionHypothesis =>
      let value : DelayedValue GdbType :=
        (collection.values index).callback (some (delayed.collected lookup))
      have here : (collection.values index).guarded = false :=
        replacing index (Nat.le_refl _) (by rw [List.length_cons]; omega)
      have stored : value.value = some (delayed.collected lookup) := by
        change ((collection.values index).callback _).value = _
        rw [DelayedValue.callback, here]
        rfl
      have later := inductionHypothesis (index + 1) (collection.setValue index value) (by
        intro other above below
        rw [DelayedCollection.setValue_of_ne (by omega)]
        exact replacing other (by omega) (by rw [List.length_cons]; omega))
      refine ⟨later.attrs, later.instanceAttrs, ?_⟩
      intro position entry found
      cases position with
      | zero =>
          cases found
          have kept := completions_frame lookup (index + 1) rest (collection.setValue index value)
            (Nat.lt_succ_self index)
          rw [DelayedCollection.setValue_self] at kept
          change ((DelayedCollection.runOperations .types (completions lookup (index + 1) rest)
            (collection.setValue index value)).values index).value = _
          rw [kept, stored]
      | succ position =>
          rw [← later.values position entry found, Nat.add_assoc, Nat.add_comm 1]
          rfl

/-! ## The declared names -/

theorem create_spec {name : PyString} {delayed : DelayedType}
    (created : DelayedType.create name = some delayed) :
    Exists fun resolved : ResolvedType => resolveType name = some resolved ∧
      delayed.name = resolved.name ∧ delayed.attrname = resolved.attrname ∧
      delayed.pointer = resolved.pointer ∧ Exists fun callback : ResolvedType =>
        resolveType resolved.name = some callback ∧ delayed.lookupName = callback.name := by
  rw [DelayedType.create] at created
  split at created
  · cases created
  · rename_i resolved result
    split at created
    · cases created
    · rename_i callback again
      cases created
      exact ⟨resolved, result, rfl, rfl, rfl, callback, again, rfl⟩

/-- Position by position, the objects belong to the names. -/
theorem declare_spec {names : List PyString} {declared : List DelayedType}
    (accepted : declare names = some declared) :
    declared.length = names.length ∧
      forall (position : Nat) (name : PyString) (delayed : DelayedType),
        names[position]? = some name -> declared[position]? = some delayed ->
        DelayedType.create name = some delayed := by
  induction names generalizing declared with
  | nil =>
      cases accepted
      exact ⟨rfl, fun _ _ _ impossible => by cases impossible⟩
  | cons first rest inductionHypothesis =>
      rw [declare] at accepted
      split at accepted
      · cases accepted
      · rename_i delayed created
        rcases Option.map_eq_some_iff.mp accepted with ⟨later, acceptedLater, shape⟩
        subst shape
        rcases inductionHypothesis acceptedLater with ⟨lengths, entries⟩
        refine ⟨by rw [List.length_cons, List.length_cons, lengths], ?_⟩
        intro position name delayed' given found
        cases position with
        | zero =>
            cases given
            cases found
            exact created
        | succ position => exact entries position name delayed' given found

section Declared

variable {names : List PyString} {declared : List DelayedType}

theorem exists_delayed (accepted : declare names = some declared) {position : Nat} {name : PyString}
    (given : names[position]? = some name) :
    Exists fun delayed : DelayedType => declared[position]? = some delayed ∧
      DelayedType.create name = some delayed := by
  rcases declare_spec accepted with ⟨lengths, entries⟩
  have inside : position < declared.length := by
    rw [lengths]
    exact (List.getElem?_eq_some_iff.mp given).1
  have found := List.getElem?_eq_getElem inside
  exact ⟨_, found, entries position name _ given found⟩

theorem exists_name (accepted : declare names = some declared) {position : Nat} {delayed : DelayedType}
    (found : declared[position]? = some delayed) :
    Exists fun name : PyString => names[position]? = some name ∧
      DelayedType.create name = some delayed := by
  rcases declare_spec accepted with ⟨lengths, entries⟩
  have inside : position < names.length := by
    rw [← lengths]
    exact (List.getElem?_eq_some_iff.mp found).1
  have given := List.getElem?_eq_getElem inside
  exact ⟨_, given, entries position _ delayed given found⟩

/-- Every key of the collection is a base name or an attribute name. -/
theorem key_of_attrs (accepted : declare names = some declared) {lookup : PyString -> GdbType}
    {key : PyString} (present : (completed lookup declared).attrs key ≠ none) :
    Exists fun name : PyString => name ∈ names ∧ (Exists fun resolved : ResolvedType =>
      resolveType name = some resolved) ∧ (key = baseName name ∨ key = attributeName name) := by
  by_contra nothing
  apply present
  have attrs : (completed lookup declared).attrs =
      (DelayedCollection.create (declared.map declaration) : DelayedCollection GdbType).attrs :=
    (DelayedCollection.runOperations_declarations _ _).attrs
  rw [attrs]
  apply declareAll_of_notMem
  intro entry member
  rcases List.mem_map.mp member with ⟨delayed, listed, shape⟩
  rcases List.getElem?_of_mem listed with ⟨position, found⟩
  rcases exists_name accepted found with ⟨name, given, created⟩
  rcases create_spec created with ⟨resolved, result, sameName, sameAttrname, _⟩
  have inNames := List.mem_of_getElem? given
  subst shape
  constructor
  · intro equal
    refine nothing ⟨name, inNames, ⟨resolved, result⟩, Or.inr ?_⟩
    rw [equal, attributeName_of_resolve result, ← sameAttrname]
    rfl
  · intro equal
    refine nothing ⟨name, inNames, ⟨resolved, result⟩, Or.inl ?_⟩
    rw [equal, baseName_of_resolve result, ← sameName]
    rfl

/-! ## Names that work -/

/-- The declared names are their own base names, usable as keys, and none of
them is an attribute name. -/
def WellNamed (names : List PyString) : Prop :=
  forall name, name ∈ names -> baseName name = name ∧ usable name = true ∧
    forall other, other ∈ names -> name ≠ attributeName other

instance (names : List PyString) : Decidable (WellNamed names) :=
  inferInstanceAs (Decidable (forall name, name ∈ names -> baseName name = name ∧ usable name = true ∧
    forall other, other ∈ names -> name ≠ attributeName other))

theorem usable_iff (key : PyString) :
    usable key = true <-> key ≠ attrsName ∧ key ≠ getName ∧ key ≠ overrideName ∧
      isDataDescriptor key = false := by
  simp only [usable, Bool.and_eq_true, Bool.not_eq_true', decide_eq_false_iff_not, and_assoc, ne_eq]

/-- Attribute names never take a place of the collection. -/
theorem usable_attributeName {name : PyString} {resolved : ResolvedType}
    (result : resolveType name = some resolved) : usable resolved.attrname = true := by
  have ending := suffix_attributeName result
  have apart : forall key, ¬ "_type".toList <:+ key -> resolved.attrname ≠ key := by
    intro key other same
    rw [same] at ending
    exact other ending
  rw [usable_iff]
  refine ⟨apart _ (by decide), apart _ (by decide), apart _ (by decide), ?_⟩
  rw [isDataDescriptor, decide_eq_false_iff_not]
  intro member
  have none : forall key, key ∈ ["__class__", "__dict__", "__weakref__"].map String.toList ->
      ¬ "_type".toList <:+ key := by decide
  exact none _ member ending

/-- A declared name that works, with its object. -/
theorem wellNamed_delayed (accepted : declare names = some declared) (well : WellNamed names)
    {position : Nat} {name : PyString} (given : names[position]? = some name) :
    Exists fun resolved : ResolvedType => resolveType name = some resolved ∧ resolved.name = name ∧
      declared[position]? = some ⟨name, attributeName name, false, name⟩ := by
  rcases exists_delayed accepted given with ⟨delayed, found, created⟩
  rcases create_spec created with ⟨resolved, result, sameName, sameAttrname, samePointer, callback,
    again, sameLookup⟩
  have same : resolved.name = name := by
    rw [← baseName_of_resolve result]
    exact (well name (List.mem_of_getElem? given)).1
  have plain := (resolveType_of_base result same).1
  rw [same, result] at again
  cases again
  refine ⟨resolved, result, same, ?_⟩
  rw [found, Option.some_inj]
  rcases delayed with ⟨name', attrname', pointer', lookupName'⟩
  change name' = resolved.name at sameName
  change attrname' = resolved.attrname at sameAttrname
  change pointer' = resolved.pointer at samePointer
  change lookupName' = resolved.name at sameLookup
  rw [sameName, sameAttrname, samePointer, sameLookup, attributeName_of_resolve result, plain, same]

/-- With names that work, each key refers to its own object. -/
theorem wellNamed_attrs (accepted : declare names = some declared)
    (distinct : (names.map attributeName).Nodup) (well : WellNamed names)
    (lookup : PyString -> GdbType) {position : Nat} {name key : PyString}
    (given : names[position]? = some name) (expected : key ∈ expectedKeys name) :
    (completed lookup declared).attrs key = some position := by
  have attrs : (completed lookup declared).attrs =
      (DelayedCollection.create (declared.map declaration) : DelayedCollection GdbType).attrs :=
    (DelayedCollection.runOperations_declarations _ _).attrs
  rcases wellNamed_delayed accepted well given with ⟨_, _, _, found⟩
  have belongs : key = attributeName name ∨ key = name := by
    rcases List.mem_cons.mp expected with first | second
    · exact Or.inr first
    · exact Or.inl (List.mem_singleton.mp second)
  have listed : (declared.map declaration)[position]? =
      some (declaration ⟨name, attributeName name, false, name⟩) := by
    rw [List.getElem?_map, found]
    rfl
  rw [attrs, ← Nat.zero_add position]
  apply declareAll_of_unique listed belongs
  · intro other entry located different
    rw [List.getElem?_map, Option.map_eq_some_iff] at located
    rcases located with ⟨delayed, foundOther, shape⟩
    rcases exists_name accepted foundOther with ⟨name', given', _⟩
    rcases wellNamed_delayed accepted well given' with ⟨_, _, _, foundAgain⟩
    rw [foundOther] at foundAgain
    cases foundAgain
    subst shape
    have apart : attributeName name ≠ attributeName name' := by
      intro same
      have inside' := (List.getElem?_eq_some_iff.mp given').1
      rw [← List.length_map (f := attributeName)] at inside'
      apply different
      apply (List.getElem?_inj inside' distinct).mp
      rw [List.getElem?_map, List.getElem?_map, given, given', Option.map_some, Option.map_some, same]
    have member := List.mem_of_getElem? given
    have member' := List.mem_of_getElem? given'
    rcases belongs with here | here
    · rw [here]
      exact ⟨apart, fun same => (well name' member').2.2 name member same.symm⟩
    · rw [here]
      exact ⟨(well name member).2.2 name' member', fun same => apart (congrArg attributeName same)⟩

/-- The parts of the collection that a read by item must not touch. -/
structure Steady (before after : DelayedCollection GdbType) : Prop where
  attrs : after.attrs = before.attrs
  values : after.values = before.values
  attrsFree : after.instanceAttrs attrsName = none
  getFree : after.instanceAttrs getName = none
  overrideFree : after.instanceAttrs overrideName = none

theorem Steady.getItem {before after : DelayedCollection GdbType} (steady : Steady before after)
    (keys : forall key, before.attrs key ≠ none -> usable key = true) (name : PyString) :
    Steady before (after.getItem name).1 := by
  rcases after.read_state .types .byItem name with same | got
  · change (after.getItem name).1 = after at same
    rw [same]
    exact steady
  · change (after.getItem name).1 = (after.get name).1 at got
    rw [got]
    rcases after.get_state name with same | ⟨index, value, declaredAs, _, memoised⟩
    · rw [same]
      exact steady
    · have present : before.attrs name ≠ none := by
        rw [← steady.attrs, declaredAs]
        exact Option.some_ne_none index
      rcases (usable_iff name).mp (keys name present) with ⟨notAttrs, notGet, notOverride, _⟩
      rw [memoised]
      exact {
        attrs := steady.attrs
        values := steady.values
        attrsFree := (DelayedCollection.setattr_of_ne notAttrs.symm value after).trans steady.attrsFree
        getFree := (DelayedCollection.setattr_of_ne notGet.symm value after).trans steady.getFree
        overrideFree :=
          (DelayedCollection.setattr_of_ne notOverride.symm value after).trans steady.overrideFree }

theorem Steady.readItems {before after : DelayedCollection GdbType} (steady : Steady before after)
    (keys : forall key, before.attrs key ≠ none -> usable key = true) (reads : List PyString) :
    Steady before (Types.readItems reads after) := by
  induction reads generalizing after with
  | nil => exact steady
  | cons name rest inductionHypothesis => exact inductionHypothesis (steady.getItem keys name)

/-- Reading a usable key of a steady collection gives the stored value. -/
theorem Steady.getItem_value {before after : DelayedCollection GdbType} (steady : Steady before after)
    {key : PyString} {index : Nat} {value : GdbType} (ordinary : usable key = true)
    (found : before.attrs key = some index) (stored : (before.values index).value = some value) :
    (after.getItem key).2 = .ok (.collected value) := by
  rcases (usable_iff key).mp ordinary with ⟨notAttrs, _, _, noDescriptor⟩
  rw [DelayedCollection.getItem_ok_iff, DelayedCollection.callGet_ok_iff]
  refine ⟨steady.getFree, steady.attrsFree, ⟨index, ?_, ?_⟩, noDescriptor, notAttrs⟩
  · rw [steady.attrs]
    exact found
  · rw [steady.values]
    exact stored

theorem completed_spec (lookup : PyString -> GdbType) (declared : List DelayedType) :
    Completing lookup 0 declared (DelayedCollection.create (declared.map declaration))
      (completed lookup declared) := by
  apply completions_spec
  intro other _ below
  rw [Nat.zero_add] at below
  simp only [DelayedCollection.create, List.getElem?_map, List.getElem?_eq_getElem below, Option.map_some,
    Option.getD_some]
  rfl

/-- The completed collection, before anything is read. -/
theorem completed_steady (lookup : PyString -> GdbType) (declared : List DelayedType) :
    Steady (completed lookup declared) (completed lookup declared) := by
  have clean : (completed lookup declared).instanceAttrs = fun _ => none :=
    (completed_spec lookup declared).instanceAttrs
  exact ⟨rfl, rfl, congrFun clean _, congrFun clean _, congrFun clean _⟩

theorem completed_value (lookup : PyString -> GdbType) {position : Nat} {delayed : DelayedType}
    (found : declared[position]? = some delayed) :
    ((completed lookup declared).values position).value = some (delayed.collected lookup) := by
  have stored := (completed_spec lookup declared).values position delayed found
  rw [Nat.zero_add] at stored
  exact stored

/-- With names that work, every key is usable. -/
theorem wellNamed_usable (accepted : declare names = some declared) (well : WellNamed names)
    (lookup : PyString -> GdbType) (key : PyString)
    (present : (completed lookup declared).attrs key ≠ none) : usable key = true := by
  rcases key_of_attrs accepted present with ⟨name, member, ⟨resolved, result⟩, here | here⟩
  · rw [here, (well name member).1]
    exact (well name member).2.1
  · rw [here, attributeName_of_resolve result]
    exact usable_attributeName result

/-- With names that work, the object of a name holds what the name denotes. -/
theorem wellNamed_value (accepted : declare names = some declared) (well : WellNamed names)
    (lookup : PyString -> GdbType) {position : Nat} {name : PyString}
    (given : names[position]? = some name) :
    ((completed lookup declared).values position).value = some (denotes lookup name) := by
  rcases wellNamed_delayed accepted well given with ⟨resolved, result, same, found⟩
  rw [completed_value lookup found, denotes_of_base lookup result same]
  rfl

/-- An override of a working name changes the object of that name only. -/
theorem wellNamed_override (accepted : declare names = some declared)
    (distinct : (names.map attributeName).Nodup) (well : WellNamed names)
    {lookup : PyString -> GdbType} {position : Nat} {name : PyString}
    (given : names[position]? = some name) {before : DelayedCollection GdbType}
    (steady : Steady (completed lookup declared) before) (value : GdbType) :
    Exists fun after : DelayedCollection GdbType =>
      before.override .types name (some value) = (after, none) ∧
        Steady ((completed lookup declared).setValue position
          { (completed lookup declared).values position with value := some value }) after := by
  rcases wellNamed_delayed accepted well given with ⟨resolved, result, same, _⟩
  have first : before.attrs name = some position := by
    rw [steady.attrs]
    exact wellNamed_attrs accepted distinct well lookup given List.mem_cons_self
  have second : before.attrs resolved.attrname = some position := by
    rw [steady.attrs, ← attributeName_of_resolve result]
    exact wellNamed_attrs accepted distinct well lookup given
      (List.mem_cons_of_mem _ (List.mem_singleton_self _))
  let once := before.setValue position { before.values position with value := some value }
  let twice := once.setValue position { once.values position with value := some value }
  have overridden : before.override .types name (some value) = (twice, none) := by
    have again : once.attrs resolved.attrname = some position := second
    rw [DelayedCollection.override, steady.overrideFree, steady.attrsFree]
    simp only [CollectionClass.types, result, Option.map_some, same, Option.isSome_none, Bool.false_eq_true,
      if_false, DelayedCollection.overrideKeys, first]
    rw [again]
  have unchanged : twice.values = Function.update (completed lookup declared).values position
      { (completed lookup declared).values position with value := some value } := by
    change Function.update (Function.update before.values position _) position _ = _
    rw [Function.update_idem, ← steady.values]
    change Function.update before.values position
      { once.values position with value := some value } = _
    rw [DelayedCollection.setValue_self]
  exact ⟨twice, overridden, steady.attrs, unchanged, steady.attrsFree, steady.getFree, steady.overrideFree⟩

/-- Names that work make the collection faithful. -/
theorem faithful_of_wellNamed (accepted : declare names = some declared)
    (distinct : (names.map attributeName).Nodup) (well : WellNamed names) : Faithful names declared := by
  intro lookup reads
  have keys := wellNamed_usable accepted well lookup
  have steady := (completed_steady lookup declared).readItems keys reads
  have value : forall {name}, name ∈ names -> forall key, key ∈ expectedKeys name ->
      ((readItems reads (completed lookup declared)).getItem key).2 =
        .ok (.collected (denotes lookup name)) := by
    intro name member key expected
    rcases List.getElem?_of_mem member with ⟨position, given⟩
    have found := wellNamed_attrs accepted distinct well lookup given expected
    have ordinary := keys key (by rw [found]; exact Option.some_ne_none position)
    exact steady.getItem_value ordinary found (wellNamed_value accepted well lookup given)
  refine ⟨fun name member => value member, ?_⟩
  intro name member new
  rcases List.getElem?_of_mem member with ⟨position, given⟩
  rcases wellNamed_override accepted distinct well given steady new with ⟨after, overridden, steadyAfter⟩
  rw [overridden]
  refine ⟨rfl, ?_, ?_⟩
  · intro key expected
    have found := wellNamed_attrs accepted distinct well lookup given expected
    have ordinary := keys key (by rw [found]; exact Option.some_ne_none position)
    apply steadyAfter.getItem_value ordinary found
    rw [DelayedCollection.setValue_self]
  · intro other otherMember different key expected
    rw [value otherMember key expected]
    rcases List.getElem?_of_mem otherMember with ⟨position', given'⟩
    have apart : position' ≠ position := by
      intro same
      rw [same, given] at given'
      cases given'
      exact different rfl
    have found := wellNamed_attrs accepted distinct well lookup given' expected
    have ordinary := keys key (by rw [found]; exact Option.some_ne_none position')
    apply steadyAfter.getItem_value ordinary found
    rw [DelayedCollection.setValue_of_ne apart]
    exact wellNamed_value accepted well lookup given'

/-! ## Names that do not work -/

/-- A successful read by item, taken apart. -/
theorem faithful_key (faithful : Faithful names declared) (lookup : PyString -> GdbType)
    (reads : List PyString) {name key : PyString} (member : name ∈ names)
    (expected : key ∈ expectedKeys name) :
    (readItems reads (completed lookup declared)).instanceAttrs getName = none ∧
      (readItems reads (completed lookup declared)).instanceAttrs attrsName = none ∧
      (Exists fun index : Nat => (readItems reads (completed lookup declared)).attrs key = some index ∧
        ((readItems reads (completed lookup declared)).values index).value = some (denotes lookup name)) ∧
      isDataDescriptor key = false ∧ key ≠ attrsName := by
  have read := (faithful lookup reads).1 name member key expected
  rw [DelayedCollection.getItem_ok_iff, DelayedCollection.callGet_ok_iff] at read
  exact read

/-- A declared name that is not its own base name is found only if a longer
declared name has it as its base name, and so on without end. -/
theorem base_of_faithful (accepted : declare names = some declared) (faithful : Faithful names declared)
    {name : PyString} (member : name ∈ names) : baseName name = name := by
  have bound : forall other, other ∈ names -> other.length ≤ (names.map List.length).sum := by
    intro other listed
    exact List.le_sum_of_mem (List.mem_map_of_mem listed)
  have chain : forall (steps : Nat) (other : PyString), other ∈ names -> baseName other ≠ other ->
      (names.map List.length).sum < other.length + steps -> False := by
    intro steps
    induction steps with
    | zero =>
        intro other listed _ beyond
        exact Nat.not_lt_of_ge (bound other listed) beyond
    | succ steps inductionHypothesis =>
        intro other listed changed beyond
        rcases (faithful_key faithful (fun _ => .base 0) [] listed List.mem_cons_self).2.2.1 with
          ⟨index, found, _⟩
        have present : (completed (fun _ => .base 0) declared).attrs other ≠ none := by
          change (completed (fun _ => .base 0) declared).attrs other = some index at found
          rw [found]
          exact Option.some_ne_none index
        rcases key_of_attrs accepted present with ⟨longer, listedLonger, ⟨resolved, result⟩, here | here⟩
        · have base := baseName_of_resolve result
          have different : resolved.name ≠ longer := by
            intro same
            apply changed
            rw [here, base, same, base, same]
          have grows := length_baseName_lt result different
          apply inductionHypothesis longer listedLonger
          · rw [base]
            exact different
          · rw [here, base] at beyond
            omega
        · apply changed
          rw [here, attributeName_of_resolve result]
          exact baseName_attributeName result
  by_contra changed
  exact chain ((names.map List.length).sum + 1) name member changed (by omega)

theorem usable_of_faithful (faithful : Faithful names declared) {name : PyString}
    (member : name ∈ names) : usable name = true := by
  have read := faithful_key faithful (fun _ => .base 0) [] member List.mem_cons_self
  let collection := completed (fun _ => .base 0) declared
  have state : (collection.getItem name).1.instanceAttrs name = some (denotes (fun _ => .base 0) name) := by
    rw [collection.getItem_of_stored read, DelayedCollection.setattr_self]
  rw [usable_iff]
  refine ⟨read.2.2.2.2, ?_, ?_, read.2.2.2.1⟩
  · intro same
    have again := (faithful_key faithful (fun _ => .base 0) [name] member List.mem_cons_self).1
    change (collection.getItem name).1.instanceAttrs getName = none at again
    rw [← same, state] at again
    cases again
  · intro same
    have overridden := ((faithful (fun _ => .base 0) [name]).2 name member (.base 0)).1
    change ((collection.getItem name).1.override .types name (some (.base 0))).2 = none at overridden
    rw [DelayedCollection.override, ← same, state] at overridden
    cases overridden

theorem apart_of_faithful (accepted : declare names = some declared) (faithful : Faithful names declared)
    {name other : PyString} (member : name ∈ names) (otherMember : other ∈ names) :
    name ≠ attributeName other := by
  intro same
  rcases List.getElem?_of_mem member with ⟨position, given⟩
  rcases List.getElem?_of_mem otherMember with ⟨position', given'⟩
  rcases exists_delayed accepted given with ⟨delayed, _, created⟩
  rcases exists_delayed accepted given' with ⟨delayed', _, created'⟩
  rcases create_spec created with ⟨resolved, result, _⟩
  rcases create_spec created' with ⟨resolved', result', _⟩
  have base : resolved.name = name := by
    rw [← baseName_of_resolve result]
    exact base_of_faithful accepted faithful member
  have base' : resolved'.name = other := by
    rw [← baseName_of_resolve result']
    exact base_of_faithful accepted faithful otherMember
  have different : other ≠ name := by
    intro equal
    subst equal
    rw [attributeName_of_resolve result] at same
    exact attributeName_ne result base same.symm
  let lookup : PyString -> GdbType := fun key => if key = name then .base 0 else .base 1
  have first := (faithful lookup []).1 name member name List.mem_cons_self
  have second := (faithful lookup []).1 other otherMember name (by
    rw [same]
    exact List.mem_cons_of_mem _ (List.mem_singleton_self _))
  rw [first, denotes_of_base lookup result base, denotes_of_base lookup result' base'] at second
  simp only [lookup, if_pos, if_neg different] at second
  cases second

/-- A collection of types with distinct attribute names is faithful if and only
if its names work. -/
theorem faithful_iff (accepted : declare names = some declared)
    (distinct : (names.map attributeName).Nodup) : Faithful names declared <-> WellNamed names := by
  constructor
  · intro faithful name member
    exact ⟨base_of_faithful accepted faithful member, usable_of_faithful faithful member,
      fun other otherMember => apart_of_faithful accepted faithful member otherMember⟩
  · exact faithful_of_wellNamed accepted distinct

end Declared

/-- Two names without a pointer. -/
def workingNames : List PyString := ["struct list_head".toList, "unsigned long".toList]

theorem faithful_iff_workingNames :
    Exists fun declared : List DelayedType => declare workingNames = some declared ∧
      (workingNames.map attributeName).Nodup ∧ Faithful workingNames declared := by
  have distinct : (workingNames.map attributeName).Nodup := by decide
  refine ⟨_, rfl, distinct, ?_⟩
  exact (faithful_iff rfl distinct).mpr (by decide)

/-- The example of the documentation declares a structure and a pointer to it.
Their attribute names differ, but the structure's own name gives the pointer
type, and the name of the pointer type is not found. -/
theorem pointer_takes_name :
    let lookup : PyString -> GdbType := fun _ => .base 0
    let names : List PyString := ["struct foo".toList, "struct foo *".toList]
    (names.map attributeName).Nodup ∧ denotes lookup "struct foo".toList = .base 0 ∧
      Exists fun declared : List DelayedType => declare names = some declared ∧
        ((completed lookup declared).getItem "struct foo".toList).2 = .ok (.collected (.pointer (.base 0))) ∧
        ((completed lookup declared).getItem "struct foo *".toList).2 =
          .error (.keyError "struct foo *".toList) := by
  exact ⟨by decide, by decide, _, rfl, rfl, rfl⟩

end Types

end Util
end CrashPython

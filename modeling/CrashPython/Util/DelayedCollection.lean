import CrashPython.Library.PyString
import Mathlib.Logic.Function.Basic

namespace CrashPython
namespace Util

open Library

/-!
# Collections of delayed lookups

A `DelayedCollection` of `crash/util/symbols.py` stores every `DelayedValue`
under two keys, and memoises each value that was read as an attribute of the
collection object itself.  Python finds an instance attribute before it calls
`__getattr__`, so the memoised value is what a later attribute read returns,
while a read by item goes to the stored object again.

The memoised names share one dictionary with `attrs`, and they hide the methods
of the class.  A collected name that is also the name of such an attribute
makes the object unusable, and this is part of the model.
-/

/-- A `DelayedValue`.  The callback of the base class keeps a value that is
already there; the callbacks of `DelayedType`, `DelayedSymval` and
`DelayedMinimalSymval` replace it. -/
structure DelayedValue (Value : Type) where
  guarded : Bool
  value : Option Value := none
deriving DecidableEq, Repr

/-- `callback`, with the value as the class stores it. -/
def DelayedValue.callback {Value : Type} (value : Option Value) (delayed : DelayedValue Value) :
    DelayedValue Value :=
  if delayed.guarded && delayed.value.isSome then delayed else { delayed with value := value }

/-- A `DelayedValue` as its constructor leaves it. -/
structure Declaration where
  name : PyString
  attrname : PyString
  guarded : Bool
deriving DecidableEq, Repr

/-- A collection: the dictionary `attrs`, the objects it refers to, and the
attributes that `get` has set on the collection itself. -/
structure DelayedCollection (Value : Type) where
  attrs : PyString -> Option Nat
  values : Nat -> DelayedValue Value
  instanceAttrs : PyString -> Option Value

/-- What a successful read gives: a collected value, or an attribute of the
object itself that is none of the collected values. -/
inductive PyObject (Value : Type) where
  | collected (value : Value)
  | own (name : PyString)
deriving DecidableEq, Repr

/-- The exceptions.  `rejected` is raised by `setattr`, and `foreign` stands for
what happens when a collected value is used in place of the dictionary or of a
method. -/
inductive AccessError where
  | nameError (name : PyString)
  | keyError (name : PyString)
  | attributeError (name : PyString)
  | delayed (name : PyString)
  | runtimeError (name : PyString)
  | indexError
  | rejected (name : PyString)
  | foreign
deriving DecidableEq, Repr

/-- The text of an exception of this module, where the class is shown as
`shown`. -/
def AccessError.text (shown : PyString) : AccessError -> Option PyString
  | .nameError name | .keyError name | .attributeError name =>
      some ("'".toList ++ shown ++ "' object has no '".toList ++ name ++ "'".toList)
  | .delayed name => some ("Delayed attribute ".toList ++ name ++ " has not been completed.".toList)
  | .runtimeError name => some (name ++ " is not part of this collection".toList)
  | _ => none

def attrsName : PyString := "attrs".toList

def getName : PyString := "get".toList

def overrideName : PyString := "override".toList

/-- The attributes that live in a descriptor of the class: an assignment does
not reach the dictionary of the object. -/
def isDataDescriptor (name : PyString) : Bool :=
  decide (name ∈ ["__class__", "__dict__", "__weakref__"].map String.toList)

/-- What distinguishes the classes of collections: the attributes that a class
has from Python, and the keys that `override` writes for a name. -/
structure CollectionClass where
  inherited : PyString -> Bool
  keys : PyString -> Option (List PyString)

/-- The base class.  Apart from the methods of the source, its attributes are the
ones that Python gives every class. -/
def CollectionClass.base : CollectionClass where
  inherited := fun name => decide (name ∈ ["__init__", "__getitem__", "__getattr__", "__module__",
    "__doc__", "__new__", "__repr__", "__str__", "__eq__", "__ne__", "__lt__", "__le__", "__gt__",
    "__ge__", "__hash__", "__getattribute__", "__setattr__", "__delattr__", "__dir__", "__format__",
    "__reduce__", "__reduce_ex__", "__getstate__", "__sizeof__", "__init_subclass__",
    "__subclasshook__"].map String.toList)
  keys := fun name => some [name]

/-- A name that neither the object nor its class uses for itself. -/
def CollectionClass.plain (cls : CollectionClass) (name : PyString) : Bool :=
  !decide (name = attrsName) && !decide (name = getName) && !decide (name = overrideName) &&
    !isDataDescriptor name && !cls.inherited name

namespace DelayedCollection

variable {Value : Type}

/-- The dictionary after the loop of `__init__`. -/
def declareAll : Nat -> List Declaration -> (PyString -> Option Nat) -> PyString -> Option Nat
  | _, [], attrs => attrs
  | index, declared :: rest, attrs =>
      declareAll (index + 1) rest
        (Function.update (Function.update attrs declared.attrname (some index)) declared.name
          (some index))

/-- `__init__`, before any of the callbacks has run. -/
def create (declared : List Declaration) : DelayedCollection Value where
  attrs := declareAll 0 declared fun _ => none
  values := fun index => { guarded := (declared[index]?.map Declaration.guarded).getD true }
  instanceAttrs := fun _ => none

def setValue (index : Nat) (value : DelayedValue Value) (collection : DelayedCollection Value) :
    DelayedCollection Value :=
  { collection with values := Function.update collection.values index value }

theorem setValue_self (index : Nat) (value : DelayedValue Value) (collection : DelayedCollection Value) :
    (collection.setValue index value).values index = value :=
  Function.update_self _ _ _

theorem setValue_of_ne {index other : Nat} (different : other ≠ index) (value : DelayedValue Value)
    (collection : DelayedCollection Value) :
    (collection.setValue index value).values other = collection.values other :=
  Function.update_of_ne different _ _

/-- `setattr` for an ordinary name. -/
def setattr (name : PyString) (value : Value) (collection : DelayedCollection Value) :
    DelayedCollection Value :=
  { collection with instanceAttrs := Function.update collection.instanceAttrs name (some value) }

theorem setattr_self (name : PyString) (value : Value) (collection : DelayedCollection Value) :
    (collection.setattr name value).instanceAttrs name = some value :=
  Function.update_self _ _ _

theorem setattr_of_ne {name other : PyString} (different : other ≠ name) (value : Value)
    (collection : DelayedCollection Value) :
    (collection.setattr name value).instanceAttrs other = collection.instanceAttrs other :=
  Function.update_of_ne different _ _

/-- `get`. -/
def get (name : PyString) (collection : DelayedCollection Value) :
    DelayedCollection Value × Except AccessError (PyObject Value) :=
  if (collection.instanceAttrs attrsName).isSome then (collection, .error .foreign)
  else
    match collection.attrs name with
    | none => (collection, .error (.nameError name))
    | some index =>
        match (collection.values index).value with
        | none => (collection, .error (.delayed name))
        | some value =>
            if isDataDescriptor name then (collection, .error (.rejected name))
            else
              let memoised := collection.setattr name value
              if name = attrsName then (memoised, .error .foreign)
              else (memoised, .ok (.collected value))

/-- A call of `get` through the object, which finds a memoised `get` first. -/
def callGet (name : PyString) (collection : DelayedCollection Value) :
    DelayedCollection Value × Except AccessError (PyObject Value) :=
  if (collection.instanceAttrs getName).isSome then (collection, .error .foreign)
  else collection.get name

/-- `__getitem__`. -/
def getItem (name : PyString) (collection : DelayedCollection Value) :
    DelayedCollection Value × Except AccessError (PyObject Value) :=
  match collection.callGet name with
  | (after, .error (.nameError missing)) => (after, .error (.keyError missing))
  | result => result

/-- An attribute read.  `__getattr__` is the last resort. -/
def getAttribute (cls : CollectionClass) (name : PyString) (collection : DelayedCollection Value) :
    DelayedCollection Value × Except AccessError (PyObject Value) :=
  if isDataDescriptor name then (collection, .ok (.own name))
  else
    match collection.instanceAttrs name with
    | some value => (collection, .ok (.collected value))
    | none =>
        if cls.plain name then
          match collection.callGet name with
          | (after, .error (.nameError missing)) => (after, .error (.attributeError missing))
          | result => result
        else (collection, .ok (.own name))

/-- The assignments of `override`, one for each key, until a key is missing. -/
def overrideKeys (value : Option Value) :
    List PyString -> DelayedCollection Value -> DelayedCollection Value × Option AccessError
  | [], collection => (collection, none)
  | key :: rest, collection =>
      match collection.attrs key with
      | none => (collection, some (.runtimeError key))
      | some index =>
          overrideKeys value rest
            (collection.setValue index { collection.values index with value := value })

/-- `override`. -/
def override (cls : CollectionClass) (name : PyString) (value : Option Value)
    (collection : DelayedCollection Value) : DelayedCollection Value × Option AccessError :=
  if (collection.instanceAttrs overrideName).isSome then (collection, some .foreign)
  else
    match cls.keys name with
    | none => (collection, some .indexError)
    | some keys =>
        if (collection.instanceAttrs attrsName).isSome then (collection, some .foreign)
        else overrideKeys value keys collection

end DelayedCollection

/-- The three ways to read a name. -/
inductive AccessPath where
  | byAttribute
  | byItem
  | byGet
deriving DecidableEq, Repr

def DelayedCollection.read {Value : Type} (cls : CollectionClass) :
    AccessPath -> PyString -> DelayedCollection Value ->
      DelayedCollection Value × Except AccessError (PyObject Value)
  | .byAttribute => getAttribute cls
  | .byItem => getItem
  | .byGet => callGet

/-- The operations on a collection. -/
inductive CollectionOperation (Value : Type) where
  | complete (index : Nat) (value : Option Value)
  | read (path : AccessPath) (name : PyString)
  | override (name : PyString) (value : Option Value)
deriving DecidableEq, Repr

def CollectionOperation.run {Value : Type} (cls : CollectionClass) :
    CollectionOperation Value -> DelayedCollection Value -> DelayedCollection Value
  | .complete index value, collection =>
      collection.setValue index ((collection.values index).callback value)
  | .read path name, collection => (collection.read cls path name).1
  | .override name value, collection => (collection.override cls name value).1

/-- The collection after a sequence of operations. -/
def DelayedCollection.runOperations {Value : Type} (cls : CollectionClass)
    (operations : List (CollectionOperation Value)) (collection : DelayedCollection Value) :
    DelayedCollection Value :=
  operations.foldl (fun collection operation => operation.run cls collection) collection

end Util
end CrashPython

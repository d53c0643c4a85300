import CrashPython.Library.PyString
import CrashPython.Types.Page

namespace CrashPython
namespace Util

open Library Types

/-!
# Offsets of members

`offsetof` of `crash/util/__init__.py` resolves a dotted path of member names.  A name can
belong to a field of the type, or to a field of an anonymous struct or union in it, at any
depth.  The search goes through the fields in their order and comes back from an anonymous
member with a type and an offset, with nothing, or with an exception that is not to leave
the module.

A type is the tree of its fields.  What a pointer points to is looked at only when the
caller asks for the members of a pointer, so the target of a pointer that is a field can
be cut short; this is how a type that refers to itself becomes a tree.
-/

/-- The type codes of the types that have members. -/
inductive CompositeCode where
  | struct
  | union
deriving DecidableEq, Repr

mutual

/-- A field as gdb presents it.  An anonymous member has no name. -/
structure Field where
  name : Option PyString
  bitpos : Nat
  type : CType

/-- A type as gdb presents it, with the text that `str` gives. -/
inductive CType where
  | composite (code : CompositeCode) (text : PyString) (fields : List Field)
  | pointer (text : PyString) (target : CType)
  | other (text : PyString)

end

namespace CType

/-- `str` of a type. -/
def str : CType -> PyString
  | composite _ text _ => text
  | pointer text _ => text
  | other text => text

/-- The type is a struct or a union. -/
def isComposite : CType -> Bool
  | composite _ _ _ => true
  | pointer _ _ => false
  | other _ => false

/-- The type code is that of a pointer. -/
def isPointer : CType -> Bool
  | composite _ _ _ => false
  | pointer _ _ => true
  | other _ => false

end CType

/-- The two exceptions that are only raised in `__offsetof`. -/
inductive InvalidComponentBaseError where
  | type (name spec : PyString)
  | name (member : PyString) (gdbtype : CType)

/-- The message of the internal exceptions. -/
def InvalidComponentBaseError.str : InvalidComponentBaseError -> PyString
  | .type component spec =>
      "component `".toList ++ component ++ "' in `".toList ++ spec ++
        "' is not a struct or union".toList
  | .name member gdbtype =>
      "no such member `".toList ++ member ++ "' in `".toList ++ gdbtype.str ++ "'".toList

/-- `InvalidComponentError`. -/
structure InvalidComponentError where
  gdbtype : CType
  spec : PyString
  message : PyString

/-- The message of `InvalidComponentError`. -/
def InvalidComponentError.str (error : InvalidComponentError) : PyString :=
  "cannot resolve '".toList ++ error.gdbtype.str ++ "->".toList ++ error.spec ++ "' (".toList ++
    error.message ++ ")".toList

/-- The exceptions of the functions in this module. -/
inductive UtilError where
  | notStructOrUnion (gdbtype : CType) (message : PyString)
  | invalidComponent (error : InvalidComponentError)
  | missingType (message : PyString)
  | gdb (error : GdbError)
  | attributeError
  | typeError

/-- `NotStructOrUnionError`. -/
def notStructOrUnionError (name : PyString) (gdbtype : CType) : UtilError :=
  .notStructOrUnion gdbtype ("argument `".toList ++ name ++ "' describes type `".toList ++
    gdbtype.str ++ "' which is not a struct or union".toList)

mutual

/-- One round of the loop of `__offsetof`.  The recursive call for an anonymous member has a
single name for its path, and so makes just one round. -/
def CType.member (name spec : PyString) :
    CType -> Except InvalidComponentBaseError (Option (Nat × CType))
  | .composite _ _ fields => memberIn name fields
  | .pointer _ _ => .error (.type name spec)
  | .other _ => .error (.type name spec)

/-- The inner loop, over the fields. -/
def memberIn (name : PyString) :
    List Field -> Except InvalidComponentBaseError (Option (Nat × CType))
  | [] => .ok none
  | ⟨fieldName, bitpos, type⟩ :: fields =>
      let off := bitpos >>> 3
      if fieldName = some name then .ok (some (off, type))
      else if fieldName = none then
        match type.member name name with
        | .error error => .error error
        | .ok (some res) => .ok (some (off + res.1, res.2))
        | .ok none => memberIn name fields
      else memberIn name fields

end

/-- The outer loop of `__offsetof`, over the names that are left. -/
def offsetofLoop (spec : PyString) (error : Bool) :
    List PyString -> Nat -> CType -> Except InvalidComponentBaseError (Option (Nat × CType))
  | [], offset, gdbtype => .ok (some (offset, gdbtype))
  | name :: names, offset, gdbtype =>
      match gdbtype.member name spec with
      | .error failed => .error failed
      | .ok none => if error then .error (.name name gdbtype) else .ok none
      | .ok (some (off, nexttype)) => offsetofLoop spec error names (offset + off) nexttype

/-- The names in a path. -/
def components (spec : PyString) : List PyString :=
  spec.splitOn '.'

/-- `__offsetof`. -/
def offsetofPath (val : CType) (spec : PyString) (error : Bool) :
    Except InvalidComponentBaseError (Option (Nat × CType)) :=
  offsetofLoop spec error (components spec) 0 val

/-- The type whose members are meant: that of the target for a pointer. -/
def CType.described : CType -> CType
  | .pointer _ target => target
  | .composite code text fields => .composite code text fields
  | .other text => .other text

/-- `offsetof_type`. -/
def offsetofType (given : CType) (memberName : PyString) (error : Bool) :
    Except UtilError (Option (Nat × CType)) :=
  let gdbtype := given.described
  if gdbtype.isComposite then
    match offsetofPath gdbtype memberName error with
    | .ok found => .ok found
    | .error failed =>
        if error then .error (.invalidComponent ⟨gdbtype, memberName, failed.str⟩) else .ok none
  else .error (notStructOrUnionError "gdbtype".toList gdbtype)

/-- `offsetof`. -/
def offsetof (gdbtype : CType) (memberName : PyString) (error : Bool) :
    Except UtilError (Option Nat) :=
  match offsetofType gdbtype memberName error with
  | .error failed => .error failed
  | .ok (some res) => .ok (some res.1)
  | .ok none => .ok none

/-- A value of gdb.  It may have an address, and a pointer has a word that can be read. -/
structure GdbValue where
  type : CType
  address : Option Nat
  word : Except GdbError Nat

/-- The value of a type at an address. -/
def objectAt (words : Nat -> Except GdbError Nat) (type : CType) (address : Nat) : GdbValue :=
  ⟨type, some address, words address⟩

/-- What a type can be given by. -/
inductive TypeSpecifier where
  | type (type : CType)
  | value (value : GdbValue)
  | name (name : PyString)
  | symbol (value : GdbValue)

/-- `resolve_type`. -/
def TypeSpecifier.resolveType (lookupType : PyString -> Option CType) :
    TypeSpecifier -> Except UtilError CType
  | .type gdbtype => .ok gdbtype
  | .value val => .ok val.type
  | .symbol val => .ok val.type
  | .name typeName =>
      match lookupType typeName with
      | some gdbtype => .ok gdbtype
      | none => .error (.missingType ("Could not resolve type ".toList ++ typeName))

/-- `struct_has_member`. -/
def structHasMember (lookupType : PyString -> Option CType) (given : TypeSpecifier)
    (name : PyString) : Except UtilError Bool :=
  match given.resolveType lookupType with
  | .error failed => .error failed
  | .ok gdbtype =>
      match offsetof gdbtype name true with
      | .ok _ => .ok true
      | .error (.invalidComponent _) => .ok false
      | .error failed => .error failed

/-- The pointer that `container_of` starts from, or `None`. -/
def GdbValue.pointer (val : GdbValue) : Option (Except GdbError Nat) :=
  if val.type.isPointer then some val.word else val.address.map Except.ok

/-- `container_of`. -/
def containerOf (words : Nat -> Except GdbError Nat) (val : GdbValue) (gdbtype : CType)
    (member : PyString) : Except UtilError GdbValue :=
  match offsetof gdbtype member true with
  | .error failed => .error failed
  | .ok offset =>
      match val.pointer with
      | none => .error .attributeError
      | some (.error failed) => .error (.gdb failed)
      | some (.ok word) =>
          match offset with
          | none => .error .typeError
          | some offset => .ok (objectAt words gdbtype (pointerOf (word - offset)))

/-!
## What the members of a type are

The rest of the module says when a name is visible in a type, where a path leads, and that
the search finds just this.
-/

/-- The offset of a field in whole bytes. -/
def Field.byteOffset (field : Field) : Nat :=
  field.bitpos / 8

mutual

/-- The names that are visible in a type. -/
def CType.visibleNames : CType -> List PyString
  | .composite _ _ fields => visibleNamesIn fields
  | .pointer _ _ => []
  | .other _ => []

/-- The names that are visible through fields. -/
def visibleNamesIn : List Field -> List PyString
  | [] => []
  | ⟨some name, _, _⟩ :: fields => name :: visibleNamesIn fields
  | ⟨none, _, type⟩ :: fields => type.visibleNames ++ visibleNamesIn fields

end

/-- The names that are visible through one field. -/
def Field.visibleNames (field : Field) : List PyString :=
  match field.name with
  | some name => [name]
  | none => field.type.visibleNames

/-- A type as C has it: what has no name is a struct or union, and no two members of a scope
have the same name. -/
inductive CType.WellFormed : CType -> Prop where
  | composite {code : CompositeCode} {text : PyString} {fields : List Field}
      (unnamed : forall field, field ∈ fields -> field.name = none -> field.type.isComposite = true)
      (unique : (visibleNamesIn fields).Nodup)
      (nested : forall field, field ∈ fields -> field.type.WellFormed) :
      (CType.composite code text fields).WellFormed
  | pointer {text : PyString} {target : CType} : (CType.pointer text target).WellFormed
  | other {text : PyString} : (CType.other text).WellFormed

/-- A name is visible in a type, as a member with this offset and this type. -/
inductive Visible (name : PyString) : CType -> Nat -> CType -> Prop where
  | named {code : CompositeCode} {text : PyString} {fields : List Field} {field : Field}
      (member : field ∈ fields) (same : field.name = some name) :
      Visible name (.composite code text fields) field.byteOffset field.type
  | anonymous {code : CompositeCode} {text : PyString} {fields : List Field} {field : Field}
      {offset : Nat} {found : CType} (member : field ∈ fields) (unnamed : field.name = none)
      (inner : Visible name field.type offset found) :
      Visible name (.composite code text fields) (field.byteOffset + offset) found

/-- Where a path of names leads: each is visible in the type that the names before it
lead to, and the offsets add up. -/
inductive Reaches : CType -> List PyString -> Nat -> CType -> Prop where
  | here {type : CType} : Reaches type [] 0 type
  | step {type next found : CType} {name : PyString} {names : List PyString}
      {offset inner : Nat} (visible : Visible name type offset next)
      (rest : Reaches next names inner found) :
      Reaches type (name :: names) (offset + inner) found

/-- A field makes a name visible. -/
def Field.Offers (field : Field) (name : PyString) (offset : Nat) (found : CType) : Prop :=
  (field.name = some name ∧ offset = field.byteOffset ∧ found = field.type) ∨
    (field.name = none ∧ Exists fun inner : Nat =>
      offset = field.byteOffset + inner ∧ Visible name field.type inner found)

theorem visible_iff {name : PyString} {code : CompositeCode} {text : PyString}
    {fields : List Field} {offset : Nat} {found : CType} :
    Visible name (.composite code text fields) offset found <->
      Exists fun field : Field => field ∈ fields ∧ field.Offers name offset found := by
  constructor
  · intro visible
    cases visible with
    | named member same => exact ⟨_, member, .inl ⟨same, rfl, rfl⟩⟩
    | anonymous member unnamed inner => exact ⟨_, member, .inr ⟨unnamed, _, rfl, inner⟩⟩
  · rintro ⟨field, member, ⟨same, rfl, rfl⟩ | ⟨unnamed, inner, rfl, visible⟩⟩
    · exact .named member same
    · exact .anonymous member unnamed visible

theorem Field.offers_named {field : Field} {name : PyString} {offset : Nat} {found : CType}
    (named : field.name = some name) :
    field.Offers name offset found <-> offset = field.byteOffset ∧ found = field.type := by
  constructor
  · rintro (⟨_, own⟩ | ⟨unnamed, _⟩)
    · exact own
    · rw [named] at unnamed
      cases unnamed
  · intro own
    exact .inl ⟨named, own⟩

theorem Field.offers_unnamed {field : Field} {name : PyString} {offset : Nat} {found : CType}
    (unnamed : field.name = none) :
    field.Offers name offset found <-> Exists fun inner : Nat =>
      offset = field.byteOffset + inner ∧ Visible name field.type inner found := by
  constructor
  · rintro (⟨named, _⟩ | ⟨_, inside⟩)
    · rw [unnamed] at named
      cases named
    · exact inside
  · intro inside
    exact .inr ⟨unnamed, inside⟩

theorem Field.not_offers {field : Field} {name other : PyString} {offset : Nat} {found : CType}
    (named : field.name = some other) (different : other ≠ name) :
    ¬ field.Offers name offset found := by
  rintro (⟨same, _⟩ | ⟨unnamed, _⟩)
  · rw [named] at same
    exact different (Option.some.inj same)
  · rw [named] at unnamed
    cases unnamed

/-- The names of one field and those of the fields after it. -/
theorem visibleNamesIn_cons (field : Field) (fields : List Field) :
    visibleNamesIn (field :: fields) = field.visibleNames ++ visibleNamesIn fields := by
  rcases field with ⟨_ | name, bitpos, type⟩
  · rfl
  · rfl

theorem mem_visibleNamesIn {name : PyString} {fields : List Field} {field : Field}
    (member : field ∈ fields) (own : name ∈ field.visibleNames) :
    name ∈ visibleNamesIn fields := by
  induction fields with
  | nil => cases member
  | cons first fields inductionHypothesis =>
      rw [visibleNamesIn_cons, List.mem_append]
      rcases List.mem_cons.mp member with rfl | later
      · exact .inl own
      · exact .inr (inductionHypothesis later)

theorem Field.mem_visibleNames_named {field : Field} {name : PyString}
    (named : field.name = some name) : name ∈ field.visibleNames := by
  simp only [Field.visibleNames]
  rw [named]
  exact List.mem_singleton.mpr rfl

theorem Field.visibleNames_unnamed {field : Field} (unnamed : field.name = none) :
    field.visibleNames = field.type.visibleNames := by
  simp only [Field.visibleNames]
  rw [unnamed]

/-- A name that is visible is one of the visible names. -/
theorem Visible.mem_visibleNames {name : PyString} {type found : CType} {offset : Nat}
    (visible : Visible name type offset found) : name ∈ type.visibleNames := by
  induction visible with
  | named member same => exact mem_visibleNamesIn member (Field.mem_visibleNames_named same)
  | anonymous member unnamed _ inductionHypothesis =>
      apply mem_visibleNamesIn member
      rw [Field.visibleNames_unnamed unnamed]
      exact inductionHypothesis

/-- What a field offers is one of its names. -/
theorem Field.Offers.mem_visibleNames {name : PyString} {field : Field} {offset : Nat}
    {found : CType} (offers : field.Offers name offset found) : name ∈ field.visibleNames := by
  rcases offers with ⟨named, _⟩ | ⟨unnamed, inner, _, visible⟩
  · exact Field.mem_visibleNames_named named
  · rw [Field.visibleNames_unnamed unnamed]
    exact visible.mem_visibleNames

/-!
## The search

With names that are unique, the first field that offers a name is the only one.
-/

theorem memberIn_named {name : PyString} {field : Field} (named : field.name = some name)
    (fields : List Field) :
    memberIn name (field :: fields) = .ok (some (field.byteOffset, field.type)) := by
  rcases field with ⟨fieldName, bitpos, type⟩
  change fieldName = some name at named
  simp only [memberIn]
  rw [if_pos named, Nat.shiftRight_eq_div_pow]
  rfl

theorem memberIn_other {name other : PyString} {field : Field} (named : field.name = some other)
    (different : other ≠ name) (fields : List Field) :
    memberIn name (field :: fields) = memberIn name fields := by
  rcases field with ⟨fieldName, bitpos, type⟩
  change fieldName = some other at named
  rw [memberIn, named, if_neg (fun same => different (Option.some.inj same)),
    if_neg (Option.some_ne_none other)]

theorem memberIn_found {name : PyString} {field : Field} (unnamed : field.name = none)
    {inner : Nat} {found : CType} (searched : field.type.member name name = .ok (some (inner, found)))
    (fields : List Field) :
    memberIn name (field :: fields) = .ok (some (field.byteOffset + inner, found)) := by
  rcases field with ⟨fieldName, bitpos, type⟩
  change fieldName = none at unnamed
  change type.member name name = .ok (some (inner, found)) at searched
  rw [memberIn, unnamed, if_neg (Option.some_ne_none name).symm, if_pos rfl, searched,
    Nat.shiftRight_eq_div_pow]
  rfl

theorem memberIn_skipped {name : PyString} {field : Field} (unnamed : field.name = none)
    (searched : field.type.member name name = .ok none) (fields : List Field) :
    memberIn name (field :: fields) = memberIn name fields := by
  rcases field with ⟨fieldName, bitpos, type⟩
  change fieldName = none at unnamed
  change type.member name name = .ok none at searched
  rw [memberIn, unnamed, if_neg (Option.some_ne_none name).symm, if_pos rfl, searched]

/-- What a search comes back with: no exception, and the member that is visible. -/
def Finds (search : Except InvalidComponentBaseError (Option (Nat × CType)))
    (visible : Nat -> CType -> Prop) : Prop :=
  Exists fun result : Option (Nat × CType) => search = .ok result ∧
    forall offset found, result = some (offset, found) <-> visible offset found

/-- A search that comes back with a member, when there is no other. -/
theorem finds_some {search : Except InvalidComponentBaseError (Option (Nat × CType))}
    {visible : Nat -> CType -> Prop} {offset : Nat} {found : CType}
    (result : search = .ok (some (offset, found)))
    (only : forall other type, visible other type <-> other = offset ∧ type = found) :
    Finds search visible := by
  refine ⟨_, result, fun other type => ?_⟩
  rw [only, Option.some.injEq, Prod.mk.injEq]
  exact ⟨fun same => ⟨same.1.symm, same.2.symm⟩, fun same => ⟨same.1.symm, same.2.symm⟩⟩

/-- A search that goes on, when the member is not to be found before. -/
theorem Finds.congr {search rest : Except InvalidComponentBaseError (Option (Nat × CType))}
    {visible later : Nat -> CType -> Prop} (finds : Finds rest later) (goesOn : search = rest)
    (same : forall offset found, visible offset found <-> later offset found) :
    Finds search visible := by
  rcases finds with ⟨result, searched, exact⟩
  refine ⟨result, goesOn.trans searched, fun offset found => ?_⟩
  rw [same]
  exact exact offset found

/-- The fields of a list offer a member. -/
def Offered (name : PyString) (fields : List Field) (offset : Nat) (found : CType) : Prop :=
  Exists fun field : Field => field ∈ fields ∧ field.Offers name offset found

theorem offered_cons {name : PyString} {first : Field} {fields : List Field} {offset : Nat}
    {found : CType} :
    Offered name (first :: fields) offset found <->
      first.Offers name offset found ∨ Offered name fields offset found :=
  List.exists_mem_cons_iff _ first fields

/-- Only the first field offers the name, when the fields after it do not have it. -/
theorem offered_first {name : PyString} {first : Field} {fields : List Field}
    (unique : (first.visibleNames ++ visibleNamesIn fields).Nodup)
    (own : name ∈ first.visibleNames) {offset : Nat} {found : CType} :
    Offered name (first :: fields) offset found <-> first.Offers name offset found := by
  rw [offered_cons]
  constructor
  · rintro (offers | ⟨field, member, offers⟩)
    · exact offers
    · have again := mem_visibleNamesIn member offers.mem_visibleNames
      exact False.elim ((List.nodup_append.mp unique).2.2 name own name again rfl)
  · exact .inl

/-- Only later fields offer the name, when the first does not. -/
theorem offered_later {name : PyString} {first : Field} {fields : List Field}
    (never : forall offset found, ¬ first.Offers name offset found) {offset : Nat} {found : CType} :
    Offered name (first :: fields) offset found <-> Offered name fields offset found := by
  rw [offered_cons]
  constructor
  · rintro (offers | later)
    · exact False.elim (never offset found offers)
    · exact later
  · exact .inr

/-- The search among fields, when it is known of the anonymous ones. -/
theorem memberIn_finds {name : PyString} {fields : List Field}
    (unique : (visibleNamesIn fields).Nodup)
    (anonymous : forall field, field ∈ fields -> field.name = none ->
      Finds (field.type.member name name) (Visible name field.type)) :
    Finds (memberIn name fields) (Offered name fields) := by
  induction fields with
  | nil =>
      refine ⟨none, rfl, fun offset found => ⟨fun impossible => ?_, ?_⟩⟩
      · cases impossible
      · rintro ⟨field, member, _⟩
        cases member
  | cons first fields inductionHypothesis =>
      rw [visibleNamesIn_cons] at unique
      have rest := inductionHypothesis (List.nodup_append.mp unique).2.1
        (fun field member => anonymous field (List.mem_cons_of_mem first member))
      cases named : first.name with
      | some own =>
          by_cases same : own = name
          · rw [same] at named
            apply finds_some (memberIn_named named fields)
            intro offset found
            rw [offered_first unique (Field.mem_visibleNames_named named),
              Field.offers_named named]
          · apply rest.congr (memberIn_other named same fields)
            intro offset found
            exact offered_later fun _ _ => Field.not_offers named same
      | none =>
          rcases anonymous first List.mem_cons_self named with ⟨result, searched, visible⟩
          cases result with
          | none =>
              apply rest.congr (memberIn_skipped named searched fields)
              intro offset found
              apply offered_later
              intro other type offers
              rcases (Field.offers_unnamed named).mp offers with ⟨inner, _, inside⟩
              have impossible := (visible inner type).mpr inside
              cases impossible
          | some res =>
              rcases res with ⟨inner, type⟩
              have inside : Visible name first.type inner type := (visible inner type).mp rfl
              have own : name ∈ first.visibleNames := by
                rw [Field.visibleNames_unnamed named]
                exact inside.mem_visibleNames
              apply finds_some (memberIn_found named searched fields)
              intro offset found
              rw [offered_first unique own, Field.offers_unnamed named]
              constructor
              · rintro ⟨other, rfl, again⟩
                cases (visible other found).mpr again
                exact ⟨rfl, rfl⟩
              · rintro ⟨rfl, rfl⟩
                exact ⟨inner, rfl, inside⟩

/-- The search in a type with members finds the name that is visible in it. -/
theorem CType.WellFormed.member_finds {type : CType} (wellFormed : type.WellFormed)
    (composite : type.isComposite = true) (name spec : PyString) :
    Finds (type.member name spec) (Visible name type) := by
  induction wellFormed generalizing spec with
  | composite unnamed unique nested inductionHypothesis =>
      apply (memberIn_finds unique fun field member noName =>
        inductionHypothesis field member (unnamed field member noName) name).congr rfl
      intro offset found
      exact visible_iff
  | pointer => cases composite
  | other => cases composite

/-!
## Paths

Each name of a path is looked for in the type that the names before it lead to.
-/

/-- Only a struct or union has visible names. -/
theorem Visible.isComposite {name : PyString} {type found : CType} {offset : Nat}
    (visible : Visible name type offset found) : type.isComposite = true := by
  cases visible with
  | named => rfl
  | anonymous => rfl

theorem Visible.wellFormed {name : PyString} {type found : CType} {offset : Nat}
    (visible : Visible name type offset found) (wellFormed : type.WellFormed) :
    found.WellFormed := by
  induction visible with
  | named member _ =>
      cases wellFormed with
      | composite _ _ nested => exact nested _ member
  | anonymous member _ _ inductionHypothesis =>
      cases wellFormed with
      | composite _ _ nested => exact inductionHypothesis (nested _ member)

/-- A path leads on from where its first part leads to. -/
theorem reaches_append {type found : CType} {first rest : List PyString} {total : Nat} :
    Reaches type (first ++ rest) total found <->
      Exists fun next : CType => Exists fun offset : Nat => Exists fun inner : Nat =>
        Reaches type first offset next ∧ Reaches next rest inner found ∧ total = offset + inner := by
  induction first generalizing type total with
  | nil =>
      constructor
      · intro reaches
        exact ⟨type, 0, total, .here, reaches, (Nat.zero_add total).symm⟩
      · rintro ⟨next, offset, inner, before, after, rfl⟩
        cases before with
        | here =>
            rw [Nat.zero_add]
            exact after
  | cons name names inductionHypothesis =>
      constructor
      · intro reaches
        cases reaches with
        | step visible further =>
            rcases inductionHypothesis.mp further with ⟨next, offset, inner, before, after, rfl⟩
            exact ⟨next, _, inner, .step visible before, after, (Nat.add_assoc ..).symm⟩
      · rintro ⟨next, offset, inner, before, after, rfl⟩
        cases before with
        | step visible further =>
            rw [Nat.add_assoc]
            exact .step visible (inductionHypothesis.mpr ⟨next, _, inner, further, after, rfl⟩)

theorem components_dot (first rest : PyString) :
    components (first ++ '.' :: rest) = components first ++ components rest :=
  List.splitOn_append_cons_self first rest

/-- A path has at least one name, so only a struct or union has members to lead to. -/
theorem Reaches.isComposite {type found : CType} {spec : PyString} {offset : Nat}
    (reaches : Reaches type (components spec) offset found) : type.isComposite = true := by
  have nonempty : components spec ≠ [] := List.splitOn_ne_nil '.' spec
  generalize components spec = names at reaches nonempty
  cases reaches with
  | here => exact False.elim (nonempty rfl)
  | step visible _ => exact visible.isComposite

theorem Reaches.wellFormed {type found : CType} {names : List PyString} {offset : Nat}
    (reaches : Reaches type names offset found) (wellFormed : type.WellFormed) :
    found.WellFormed := by
  induction reaches with
  | here => exact wellFormed
  | step visible _ inductionHypothesis =>
      exact inductionHypothesis (visible.wellFormed wellFormed)

/-- The loop follows a path to its end. -/
theorem offsetofLoop_reaches {type found : CType} {names : List PyString} {inner : Nat}
    (reaches : Reaches type names inner found) (wellFormed : type.WellFormed) (spec : PyString)
    (error : Bool) (start : Nat) :
    offsetofLoop spec error names start type = .ok (some (start + inner, found)) := by
  induction reaches generalizing start with
  | here => rfl
  | @step type next found name names offset inner visible rest inductionHypothesis =>
      rcases wellFormed.member_finds visible.isComposite name spec with ⟨result, searched, exact⟩
      have here := (exact offset next).mpr visible
      rw [here] at searched
      rw [offsetofLoop, searched, ← Nat.add_assoc]
      exact inductionHypothesis (visible.wellFormed wellFormed) (start + offset)

/-- A path that leads nowhere ends the loop, and only with `error` off quietly. -/
theorem offsetofLoop_fails {type : CType} {names : List PyString} (wellFormed : type.WellFormed)
    (nowhere : forall inner found, ¬ Reaches type names inner found) (spec : PyString)
    (error : Bool) (start : Nat) :
    (Exists fun failed : InvalidComponentBaseError =>
        offsetofLoop spec error names start type = .error failed) ∨
      (error = false ∧ offsetofLoop spec error names start type = .ok none) := by
  induction names generalizing type start with
  | nil => exact False.elim (nowhere 0 type .here)
  | cons name names inductionHypothesis =>
      rw [offsetofLoop]
      cases type with
      | pointer text target => exact .inl ⟨_, rfl⟩
      | other text => exact .inl ⟨_, rfl⟩
      | composite code text fields =>
          rcases wellFormed.member_finds rfl name spec with ⟨result, searched, exact⟩
          rw [searched]
          cases result with
          | none =>
              cases error with
              | true => exact .inl ⟨_, rfl⟩
              | false => exact .inr ⟨rfl, rfl⟩
          | some res =>
              have visible := (exact res.1 res.2).mp rfl
              apply inductionHypothesis (visible.wellFormed wellFormed)
              intro inner found rest
              exact nowhere _ found (.step visible rest)

/-- A path leads somewhere. -/
def Valid (type : CType) (spec : PyString) : Prop :=
  Exists fun offset : Nat => Exists fun found : CType =>
    Reaches type (components spec) offset found

theorem described_composite {type : CType} (composite : type.isComposite = true) :
    type.described = type := by
  cases type with
  | composite code text fields => rfl
  | pointer text target => cases composite
  | other text => rfl

/-- The recursive call of the source is the search for one name. -/
theorem offsetofPath_single {name : PyString} (dotless : '.' ∉ name) (type : CType) :
    offsetofPath type name false = type.member name name := by
  simp only [offsetofPath, components]
  rw [List.splitOn_eq_singleton dotless, offsetofLoop]
  cases type.member name name with
  | error failed => rfl
  | ok result =>
      cases result with
      | none => rfl
      | some res =>
          change Except.ok (some (0 + res.1, res.2)) = _
          rw [Nat.zero_add]

section

variable {type : CType} (wellFormed : type.WellFormed) (composite : type.isComposite = true)

include wellFormed composite

/-- `offsetof_type` follows a path to its end. -/
theorem offsetofType_reaches {spec : PyString} {offset : Nat} {found : CType}
    (reaches : Reaches type (components spec) offset found) (error : Bool) :
    offsetofType type spec error = .ok (some (offset, found)) := by
  have followed := offsetofLoop_reaches reaches wellFormed spec error 0
  rw [Nat.zero_add] at followed
  simp only [offsetofType, offsetofPath]
  rw [described_composite composite, if_pos composite, followed]

/-- With `error` on, a path that leads nowhere is the exception that names it. -/
theorem offsetofType_raises {spec : PyString} (nowhere : ¬ Valid type spec) :
    Exists fun message : PyString =>
      offsetofType type spec true = .error (.invalidComponent ⟨type, spec, message⟩) := by
  simp only [offsetofType, offsetofPath]
  rw [described_composite composite, if_pos composite]
  rcases offsetofLoop_fails wellFormed
    (fun inner found reaches => nowhere ⟨inner, found, reaches⟩) spec true 0 with
    ⟨failed, raised⟩ | ⟨impossible, _⟩
  · rw [raised]
    exact ⟨failed.str, rfl⟩
  · cases impossible

/-- With `error` off, a path that leads nowhere gives nothing. -/
theorem offsetofType_none {spec : PyString} (nowhere : ¬ Valid type spec) :
    offsetofType type spec false = .ok none := by
  simp only [offsetofType, offsetofPath]
  rw [described_composite composite, if_pos composite]
  rcases offsetofLoop_fails wellFormed
    (fun inner found reaches => nowhere ⟨inner, found, reaches⟩) spec false 0 with
    ⟨failed, raised⟩ | ⟨_, quiet⟩
  · rw [raised]
    rfl
  · rw [quiet]

theorem offsetofType_iff {spec : PyString} {error : Bool} {offset : Nat} {found : CType} :
    offsetofType type spec error = .ok (some (offset, found)) <->
      Reaches type (components spec) offset found := by
  constructor
  · intro resolved
    by_cases valid : Valid type spec
    · rcases valid with ⟨other, next, reaches⟩
      rw [offsetofType_reaches wellFormed composite reaches] at resolved
      cases resolved
      exact reaches
    · cases error with
      | true =>
          rcases offsetofType_raises wellFormed composite valid with ⟨message, raised⟩
          rw [raised] at resolved
          cases resolved
      | false =>
          rw [offsetofType_none wellFormed composite valid] at resolved
          cases resolved
  · intro reaches
    exact offsetofType_reaches wellFormed composite reaches error

theorem offsetof_iff {spec : PyString} {error : Bool} {offset : Nat} :
    offsetof type spec error = .ok (some offset) <->
      Exists fun found : CType => Reaches type (components spec) offset found := by
  constructor
  · intro resolved
    simp only [offsetof] at resolved
    cases typed : offsetofType type spec error with
    | error failed =>
        rw [typed] at resolved
        cases resolved
    | ok result =>
        rw [typed] at resolved
        cases result with
        | none => cases resolved
        | some res =>
            cases resolved
            exact ⟨res.2, (offsetofType_iff wellFormed composite).mp typed⟩
  · rintro ⟨found, reaches⟩
    simp only [offsetof]
    rw [offsetofType_reaches wellFormed composite reaches]

/-- `offsetof` fails as `offsetof_type` does. -/
theorem offsetof_missing {spec : PyString} (nowhere : ¬ Valid type spec) :
    (Exists fun message : PyString =>
        offsetof type spec true = .error (.invalidComponent ⟨type, spec, message⟩)) ∧
      offsetof type spec false = .ok none := by
  rcases offsetofType_raises wellFormed composite nowhere with ⟨message, raised⟩
  simp only [offsetof]
  rw [raised, offsetofType_none wellFormed composite nowhere]
  exact ⟨⟨message, rfl⟩, rfl⟩

variable {lookupType : PyString -> Option CType} {given : TypeSpecifier}
  (resolved : given.resolveType lookupType = .ok type)

include resolved

theorem structHasMember_valid {spec : PyString} (valid : Valid type spec) :
    structHasMember lookupType given spec = .ok true := by
  rcases valid with ⟨offset, found, reaches⟩
  have present : offsetof type spec true = .ok (some offset) :=
    (offsetof_iff wellFormed composite).mpr ⟨found, reaches⟩
  simp only [structHasMember]
  simp only [resolved, present]

theorem structHasMember_invalid {spec : PyString} (nowhere : ¬ Valid type spec) :
    structHasMember lookupType given spec = .ok false := by
  rcases (offsetof_missing wellFormed composite nowhere).1 with ⟨message, raised⟩
  simp only [structHasMember]
  simp only [resolved, raised]

/-- `struct_has_member` says whether a path leads somewhere. -/
theorem structHasMember_iff (spec : PyString) :
    (structHasMember lookupType given spec = .ok true <-> Valid type spec) ∧
      (structHasMember lookupType given spec = .ok false <-> ¬ Valid type spec) := by
  by_cases valid : Valid type spec
  · rw [structHasMember_valid wellFormed composite resolved valid]
    refine ⟨⟨fun _ => valid, fun _ => rfl⟩, fun impossible => ?_, fun impossible => ?_⟩
    · cases impossible
    · exact False.elim (impossible valid)
  · rw [structHasMember_invalid wellFormed composite resolved valid]
    refine ⟨⟨fun impossible => ?_, fun impossible => ?_⟩, fun _ => valid, fun _ => rfl⟩
    · cases impossible
    · exact False.elim (valid impossible)

end

/-- The pointer arithmetic of `container_of` goes back to the object. -/
theorem pointerOf_sub {address : Nat} (small : address < 2 ^ 64) (offset : Nat) :
    pointerOf ((pointerOf (address + offset) : Int) - offset) = address := by
  simp only [pointerOf]
  omega

/-- `container_of` of a member that is not a pointer starts from the address of the member. -/
theorem containerOf_member {type next : CType} {spec : PyString} {offset : Nat}
    (present : offsetof type spec true = .ok (some offset)) (object : next.isPointer = false)
    {words : Nat -> Except GdbError Nat} {address : Nat} (small : address < 2 ^ 64) :
    containerOf words (objectAt words next (pointerOf (address + offset))) type spec =
      .ok (objectAt words type address) := by
  have start : (objectAt words next (pointerOf (address + offset))).pointer =
      some (.ok (pointerOf (address + offset))) := by
    unfold GdbValue.pointer objectAt
    rw [object]
    rfl
  simp only [containerOf]
  simp only [present, start]
  rw [pointerOf_sub small]

/-- The offset of a path is that of its first part, and from there on that of the rest. -/
theorem offsetof_composes {type : CType} (wellFormed : type.WellFormed)
    (composite : type.isComposite = true) (first rest : PyString) (error : Bool) (total : Nat) :
    offsetof type (first ++ '.' :: rest) error = .ok (some total) <->
      Exists fun offset : Nat => Exists fun next : CType => Exists fun inner : Nat =>
        offsetofType type first error = .ok (some (offset, next)) ∧ next.isComposite = true ∧
          offsetof next rest error = .ok (some inner) ∧ total = offset + inner := by
  rw [offsetof_iff wellFormed composite, components_dot]
  constructor
  · rintro ⟨found, reaches⟩
    rcases reaches_append.mp reaches with ⟨next, offset, inner, before, after, sum⟩
    exact ⟨offset, next, inner, (offsetofType_iff wellFormed composite).mpr before,
      after.isComposite,
      (offsetof_iff (before.wellFormed wellFormed) after.isComposite).mpr ⟨found, after⟩, sum⟩
  · rintro ⟨offset, next, inner, typed, further, resolved, sum⟩
    have before := (offsetofType_iff wellFormed composite).mp typed
    rcases (offsetof_iff (before.wellFormed wellFormed) further).mp resolved with ⟨found, after⟩
    exact ⟨found, reaches_append.mpr ⟨next, offset, inner, before, after, sum⟩⟩

/-- What is to hold of the functions for one path in a type. -/
structure OffsetofSpec (type : CType) (spec : PyString) : Prop where
  found : forall offset next error, Reaches type (components spec) offset next ->
    offsetofType type spec error = .ok (some (offset, next)) ∧
      offsetof type spec error = .ok (some offset)
  missing : ¬ Valid type spec ->
    (Exists fun message : PyString =>
        offsetof type spec true = .error (.invalidComponent ⟨type, spec, message⟩)) ∧
      offsetof type spec false = .ok none
  hasMember : forall lookupType given, given.resolveType lookupType = .ok type ->
    (structHasMember lookupType given spec = .ok true <-> Valid type spec) ∧
      (structHasMember lookupType given spec = .ok false <-> ¬ Valid type spec)
  composes : forall first rest error total, spec = first ++ '.' :: rest ->
    (offsetof type spec error = .ok (some total) <->
      Exists fun offset : Nat => Exists fun next : CType => Exists fun inner : Nat =>
        offsetofType type first error = .ok (some (offset, next)) ∧ next.isComposite = true ∧
          offsetof next rest error = .ok (some inner) ∧ total = offset + inner)
  contains : forall (words : Nat -> Except GdbError Nat) (address offset : Nat) (next : CType),
    address < 2 ^ 64 -> Reaches type (components spec) offset next -> next.isPointer = false ->
      containerOf words (objectAt words next (pointerOf (address + offset))) type spec =
        .ok (objectAt words type address)

/-- Paths are resolved as C resolves them: through anonymous members at any depth, with the
offsets of all members on the way added up. -/
theorem offsetof_meets_spec {type : CType} (wellFormed : type.WellFormed)
    (composite : type.isComposite = true) (spec : PyString) : OffsetofSpec type spec where
  found := by
    intro offset next error reaches
    exact ⟨offsetofType_reaches wellFormed composite reaches error,
      (offsetof_iff wellFormed composite).mpr ⟨next, reaches⟩⟩
  missing := offsetof_missing wellFormed composite
  hasMember := by
    intro lookupType given resolved
    exact structHasMember_iff wellFormed composite resolved spec
  composes := by
    rintro first rest error total rfl
    exact offsetof_composes wellFormed composite first rest error total
  contains := by
    intro words address offset next small reaches object
    exact containerOf_member ((offsetof_iff wellFormed composite).mpr ⟨next, reaches⟩) object small

/-- `struct list_head`, whose links are pointers to itself. -/
def listHeadType : CType :=
  .composite .struct "struct list_head".toList
    [⟨some "next".toList, 0, .pointer "struct list_head *".toList (.other "struct list_head".toList)⟩,
      ⟨some "prev".toList, 64,
        .pointer "struct list_head *".toList (.other "struct list_head".toList)⟩]

/-- A struct with a number, and an anonymous struct in which the list head is the second
member of a union. -/
def nestedType : CType :=
  .composite .struct "struct test".toList
    [⟨some "test_member".toList, 0, .other "unsigned long".toList⟩,
      ⟨none, 64, .composite .struct "struct \x7b...\x7d".toList
        [⟨some "anon_struct_member1".toList, 0, .other "unsigned long".toList⟩,
          ⟨none, 64, .composite .union "union \x7b...\x7d".toList
            [⟨some "anon_union_member1".toList, 0, .other "unsigned long".toList⟩,
              ⟨some "embedded_list".toList, 0, listHeadType⟩]⟩]⟩]

example : (offsetof nestedType "embedded_list.prev".toList true).toOption = some (some 24) := by
  decide +kernel

theorem listHeadType_wellFormed : listHeadType.WellFormed := by
  refine .composite (fun field member unnamed => ?_) (by decide) (fun field member => ?_)
  · rcases List.mem_pair.mp member with rfl | rfl
    · cases unnamed
    · cases unnamed
  · rcases List.mem_pair.mp member with rfl | rfl
    · exact .pointer
    · exact .pointer

theorem nestedType_wellFormed : nestedType.WellFormed := by
  refine .composite (fun field member unnamed => ?_) (by decide) (fun field member => ?_)
  · rcases List.mem_pair.mp member with rfl | rfl
    · cases unnamed
    · rfl
  rcases List.mem_pair.mp member with rfl | rfl
  · exact .other
  refine .composite (fun field member unnamed => ?_) (by decide) (fun field member => ?_)
  · rcases List.mem_pair.mp member with rfl | rfl
    · cases unnamed
    · rfl
  rcases List.mem_pair.mp member with rfl | rfl
  · exact .other
  refine .composite (fun field member unnamed => ?_) (by decide) (fun field member => ?_)
  · rcases List.mem_pair.mp member with rfl | rfl
    · cases unnamed
    · cases unnamed
  rcases List.mem_pair.mp member with rfl | rfl
  · exact .other
  · exact listHeadType_wellFormed

theorem offsetof_meets_spec_embeddedList :
    OffsetofSpec nestedType "embedded_list.prev".toList :=
  offsetof_meets_spec nestedType_wellFormed rfl "embedded_list.prev".toList

end Util
end CrashPython

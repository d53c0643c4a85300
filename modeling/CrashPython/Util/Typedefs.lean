import CrashPython.Util.Offsetof
import CrashPython.Util.Uuid

namespace CrashPython
namespace Util

open Library CrashPython.Types

/-!
# Typedefs and the members of a type

gdb has a type code for typedefs.  The functions of `crash/util/__init__.py` that look for
a member test the code of the type they are given, of what it points to, of every type on
the way of the path but the last, and of the anonymous members they step into.  They ask
for a struct or a union, and none of them looks behind a typedef.

A declared type says where its typedefs are.  There are two ways to read it: as gdb
presents it, where a typedef is a type without members, and with all typedefs stripped.
The search for a member comes to the same in both just if it meets no typedef.

`container_of` also tests the code of the type of its value.  A pointer is taken for the
address that it holds, and a member whose own type is a typedef of a pointer for an object.
-/

mutual

/-- A field of a declared type. -/
structure DeclaredField where
  name : Option PyString
  bitpos : Nat
  type : DeclaredType

/-- A type with its typedefs. -/
inductive DeclaredType where
  | composite (code : CompositeCode) (text : PyString) (fields : List DeclaredField)
  | pointer (text : PyString) (target : DeclaredType)
  | typedef (text : PyString) (target : DeclaredType)
  | other (text : PyString)

end

mutual

/-- The type as gdb presents it. -/
def DeclaredType.seen : DeclaredType -> CType
  | .composite code text fields => .composite code text (seenFields fields)
  | .pointer text target => .pointer text target.seen
  | .typedef text _ => .other text
  | .other text => .other text

def seenFields : List DeclaredField -> List Field
  | [] => []
  | ⟨name, bitpos, type⟩ :: fields => ⟨name, bitpos, type.seen⟩ :: seenFields fields

end

mutual

/-- The type without its typedefs. -/
def DeclaredType.stripped : DeclaredType -> CType
  | .composite code text fields => .composite code text (strippedFields fields)
  | .pointer text target => .pointer text target.stripped
  | .typedef _ target => target.stripped
  | .other text => .other text

def strippedFields : List DeclaredField -> List Field
  | [] => []
  | ⟨name, bitpos, type⟩ :: fields => ⟨name, bitpos, type.stripped⟩ :: strippedFields fields

end

mutual

/-- The declared type of the member with a name. -/
def DeclaredType.memberType (name : PyString) : DeclaredType -> Option DeclaredType
  | .composite _ _ fields => fieldType name fields
  | .pointer _ _ => none
  | .typedef _ target => target.memberType name
  | .other _ => none

def fieldType (name : PyString) : List DeclaredField -> Option DeclaredType
  | [] => none
  | ⟨fieldName, _, type⟩ :: fields =>
      if fieldName = some name then some type
      else if fieldName = none then
        match type.memberType name with
        | some found => some found
        | none => fieldType name fields
      else fieldType name fields

end

mutual

/-- The type is no typedef, and neither is an anonymous member that a search for the name
goes through. -/
def DeclaredType.Bare (name : PyString) : DeclaredType -> Prop
  | .composite _ _ fields => BareFields name fields
  | .pointer _ _ => True
  | .typedef _ _ => False
  | .other _ => True

/-- The anonymous members up to the one that has the name are no typedefs. -/
def BareFields (name : PyString) : List DeclaredField -> Prop
  | [] => True
  | ⟨fieldName, _, type⟩ :: fields =>
      if fieldName = some name then True
      else if fieldName = none then
        type.Bare name ∧ (name ∈ type.stripped.visibleNames ∨ BareFields name fields)
      else BareFields name fields

end

namespace DeclaredType

def isTypedef : DeclaredType -> Bool
  | .typedef _ _ => true
  | .composite _ _ _ => false
  | .pointer _ _ => false
  | .other _ => false

/-- The type whose members are meant: that of the target for a pointer that is no typedef. -/
def described : DeclaredType -> DeclaredType
  | .pointer _ target => target
  | .composite code text fields => .composite code text fields
  | .typedef text target => .typedef text target
  | .other text => .other text

/-- A search for the names of a path meets no typedef.  The type that the whole path leads
to may be one. -/
def BarePath : List PyString -> DeclaredType -> Prop
  | [], _ => True
  | name :: names, type =>
      type.Bare name ∧ forall next, type.memberType name = some next -> next.BarePath names

/-- The declared type that a path leads to. -/
def pathType : List PyString -> DeclaredType -> Option DeclaredType
  | [], type => some type
  | name :: names, type => (type.memberType name).bind (pathType names)

/-- The type is a typedef of a pointer. -/
def HidesPointer (type : DeclaredType) : Prop :=
  type.isTypedef = true ∧ type.stripped.isPointer = true

/-- Only a typedef of a pointer is a pointer in one reading and not in the other. -/
theorem isPointer_seen {type : DeclaredType} (plain : ¬ type.HidesPointer) :
    type.seen.isPointer = type.stripped.isPointer := by
  cases type with
  | composite code text fields => rfl
  | pointer text target => rfl
  | other text => rfl
  | typedef text target => exact (Bool.eq_false_iff.mpr fun pointer => plain ⟨rfl, pointer⟩).symm

theorem HidesPointer.seen {type : DeclaredType} (hides : type.HidesPointer) : type.seen.isPointer = false := by
  cases type with
  | typedef text target => rfl
  | composite code text fields => cases hides.1
  | pointer text target => cases hides.1
  | other text => cases hides.1

end DeclaredType

/-- How a search in the presented type goes, when the one in the stripped type has a result. -/
structure SearchAgrees (search : Except InvalidComponentBaseError (Option (Nat × CType)))
    (bare shown : Prop) (type : Option DeclaredType) (result : Option (Nat × CType)) : Prop where
  same : type.map DeclaredType.stripped = result.map Prod.snd
  visible : shown <-> result.isSome = true
  plain : bare -> search = .ok (result.bind fun found => type.map fun next => (found.1, next.seen))
  met : ¬ bare -> Exists fun failed => search = .error failed

/-- How the search for a name in a type goes. -/
abbrev DeclaredType.Agrees (name : PyString) (type : DeclaredType) (result : Option (Nat × CType)) : Prop :=
  SearchAgrees (type.seen.member name name) (type.Bare name) (name ∈ type.stripped.visibleNames)
    (type.memberType name) result

/-- How the search for a name among fields goes. -/
abbrev FieldsAgree (name : PyString) (fields : List DeclaredField) (result : Option (Nat × CType)) : Prop :=
  SearchAgrees (memberIn name (seenFields fields)) (BareFields name fields)
    (name ∈ visibleNamesIn (strippedFields fields)) (fieldType name fields) result

section Fields

variable {name own : PyString} {bitpos : Nat} {type : DeclaredType} {fields : List DeclaredField}
  {result : Option (Nat × CType)}

/-- The search ends at the field with the name. -/
theorem searchAgrees_named
    (found : memberIn name (strippedFields (⟨some name, bitpos, type⟩ :: fields)) = .ok result) :
    FieldsAgree name (⟨some name, bitpos, type⟩ :: fields) result := by
  rw [strippedFields, memberIn_named rfl] at found
  cases found
  rw [FieldsAgree, fieldType, if_pos rfl, seenFields, BareFields, if_pos rfl, memberIn_named rfl,
    strippedFields]
  refine ⟨rfl, ?_, fun _ => rfl, fun impossible => False.elim (impossible trivial)⟩
  exact ⟨fun _ => rfl, fun _ => mem_visibleNamesIn List.mem_cons_self (Field.mem_visibleNames_named rfl)⟩

/-- The search goes on behind a field with another name. -/
theorem searchAgrees_other (different : own ≠ name) (rest : FieldsAgree name fields result) :
    FieldsAgree name (⟨some own, bitpos, type⟩ :: fields) result := by
  have apart : ¬ some own = some name := fun same => different (Option.some.inj same)
  rw [FieldsAgree, fieldType, if_neg apart, if_neg (Option.some_ne_none own), seenFields, BareFields,
    if_neg apart, if_neg (Option.some_ne_none own), memberIn_other rfl different, strippedFields,
    visibleNamesIn, List.mem_cons]
  exact ⟨rest.same, ⟨fun either => rest.visible.mp (either.resolve_left different.symm),
    fun some => Or.inr (rest.visible.mpr some)⟩, rest.plain, rest.met⟩

/-- A search that raises an exception in an anonymous member does so among the fields. -/
theorem memberIn_failing {failed : InvalidComponentBaseError}
    (raised : type.seen.member name name = .error failed) :
    memberIn name (⟨none, bitpos, type.seen⟩ :: seenFields fields) = .error failed := by
  rw [memberIn, if_neg (Option.some_ne_none name).symm, if_pos rfl, raised]

/-- The search ends in an anonymous member. -/
theorem searchAgrees_inside {offset : Nat} {last : CType}
    (searched : type.stripped.member name name = .ok (some (offset, last)))
    (agrees : type.Agrees name (some (offset, last)))
    (found : memberIn name (strippedFields (⟨none, bitpos, type⟩ :: fields)) = .ok result) :
    FieldsAgree name (⟨none, bitpos, type⟩ :: fields) result := by
  have noName : ¬ none = some name := (Option.some_ne_none name).symm
  rcases Option.map_eq_some_iff.mp agrees.same with ⟨next, declared, same⟩
  have visible := agrees.visible.mpr rfl
  rw [FieldsAgree, fieldType, if_neg noName, if_pos rfl, seenFields, BareFields, if_neg noName, if_pos rfl]
  rw [strippedFields] at found ⊢
  rw [memberIn_found rfl searched] at found
  cases found
  rw [visibleNamesIn, List.mem_append, declared]
  refine ⟨congrArg some same, ⟨fun _ => rfl, fun _ => Or.inl visible⟩, ?_, ?_⟩
  · rintro ⟨bare, _⟩
    have search := agrees.plain bare
    rw [declared] at search
    exact memberIn_found rfl search _
  · intro met
    rcases agrees.met fun bare => met ⟨bare, Or.inl visible⟩ with ⟨failed, raised⟩
    exact ⟨failed, memberIn_failing raised⟩

/-- The search goes on behind an anonymous member. -/
theorem searchAgrees_behind (agrees : type.Agrees name none) (later : FieldsAgree name fields result) :
    FieldsAgree name (⟨none, bitpos, type⟩ :: fields) result := by
  have noName : ¬ none = some name := (Option.some_ne_none name).symm
  have hidden : name ∉ type.stripped.visibleNames :=
    fun visible => Bool.false_ne_true (agrees.visible.mp visible)
  rw [FieldsAgree, fieldType, if_neg noName, if_pos rfl, seenFields, BareFields, if_neg noName, if_pos rfl,
    strippedFields, visibleNamesIn, List.mem_append, Option.map_eq_none_iff.mp agrees.same]
  refine ⟨later.same, ⟨fun either => later.visible.mp (either.resolve_left hidden),
    fun some => Or.inr (later.visible.mpr some)⟩, ?_, ?_⟩
  · rintro ⟨bare, either⟩
    rw [memberIn_skipped rfl (agrees.plain bare)]
    exact later.plain (either.resolve_left hidden)
  · intro met
    by_cases bare : type.Bare name
    · rw [memberIn_skipped rfl (agrees.plain bare)]
      exact later.met fun all => met ⟨bare, Or.inr all⟩
    · rcases agrees.met bare with ⟨failed, raised⟩
      exact ⟨failed, memberIn_failing raised⟩

/-- The search comes to an anonymous member. -/
theorem searchAgrees_unnamed
    (inner : forall {within}, type.stripped.member name name = .ok within -> type.Agrees name within)
    (rest : memberIn name (strippedFields fields) = .ok result -> FieldsAgree name fields result)
    (found : memberIn name (strippedFields (⟨none, bitpos, type⟩ :: fields)) = .ok result) :
    FieldsAgree name (⟨none, bitpos, type⟩ :: fields) result := by
  cases searched : type.stripped.member name name with
  | error failed =>
      rw [strippedFields, memberIn, if_neg (Option.some_ne_none name).symm, if_pos rfl, searched] at found
      cases found
  | ok within =>
      cases within with
      | some res => exact searchAgrees_inside searched (inner searched) found
      | none =>
          rw [strippedFields, memberIn_skipped rfl searched] at found
          exact searchAgrees_behind (inner searched) (rest found)

end Fields

mutual

/-- The search for a name in a type. -/
theorem DeclaredType.member_agrees (type : DeclaredType) {name spec : PyString}
    {result : Option (Nat × CType)} (found : type.stripped.member name spec = .ok result) :
    SearchAgrees (type.seen.member name spec) (type.Bare name)
      (name ∈ type.stripped.visibleNames) (type.memberType name) result := by
  match type with
  | .composite code text fields => exact memberIn_agrees fields found
  | .pointer text target => cases found
  | .other text => cases found
  | .typedef text target =>
      have inner := target.member_agrees found
      exact ⟨inner.same, inner.visible, fun impossible => False.elim impossible, fun _ => ⟨_, rfl⟩⟩

/-- The search for a name among fields. -/
theorem memberIn_agrees (fields : List DeclaredField) {name : PyString}
    {result : Option (Nat × CType)} (found : memberIn name (strippedFields fields) = .ok result) :
    FieldsAgree name fields result := by
  match fields with
  | [] =>
      cases found
      refine ⟨rfl, ⟨fun impossible => ?_, fun impossible => by cases impossible⟩, fun _ => rfl,
        fun impossible => False.elim (impossible trivial)⟩
      exact False.elim (List.not_mem_nil impossible)
  | ⟨none, bitpos, type⟩ :: fields =>
      exact searchAgrees_unnamed (fun searched => type.member_agrees searched)
        (fun later => memberIn_agrees fields later) found
  | ⟨some own, bitpos, type⟩ :: fields =>
      by_cases same : own = name
      · rw [same] at found ⊢
        exact searchAgrees_named found
      · rw [strippedFields, memberIn_other rfl same] at found
        exact searchAgrees_other same (memberIn_agrees fields found)

end

/-! ## Paths -/

/-- A path that resolves, resolves also when failures are not to be raised. -/
theorem offsetofLoop_resolved {spec : PyString} (names : List PyString) {offset : Nat} {type : CType}
    {found : Nat × CType} (resolved : offsetofLoop spec true names offset type = .ok (some found))
    (error : Bool) : offsetofLoop spec error names offset type = .ok (some found) := by
  induction names generalizing offset type with
  | nil => exact resolved
  | cons name names inductionHypothesis =>
      rw [offsetofLoop] at resolved ⊢
      cases searched : type.member name spec with
      | error failed =>
          rw [searched] at resolved
          cases resolved
      | ok result =>
          rw [searched] at resolved
          cases result with
          | none => cases resolved
          | some res => exact inductionHypothesis resolved

/-- The search for a path that resolves in the stripped type comes to the same offset in the
presented type, or it meets a typedef and raises an exception. -/
theorem offsetofLoop_seen {spec : PyString} (names : List PyString) (type : DeclaredType)
    {offset total : Nat} {last : CType} {error : Bool}
    (resolved : offsetofLoop spec error names offset type.stripped = .ok (some (total, last))) :
    (type.BarePath names ->
        Exists fun found => offsetofLoop spec error names offset type.seen = .ok (some (total, found))) ∧
      (¬ type.BarePath names ->
        Exists fun failed => offsetofLoop spec error names offset type.seen = .error failed) := by
  induction names generalizing offset type with
  | nil =>
      rw [offsetofLoop] at resolved ⊢
      cases resolved
      exact ⟨fun _ => ⟨_, rfl⟩, fun impossible => False.elim (impossible trivial)⟩
  | cons name names inductionHypothesis =>
      rw [offsetofLoop] at resolved ⊢
      cases searched : type.stripped.member name spec with
      | error failed =>
          rw [searched] at resolved
          cases resolved
      | ok result =>
          rw [searched] at resolved
          have agrees := type.member_agrees searched
          cases result with
          | none => cases error <;> cases resolved
          | some res =>
              rcases res with ⟨off, nexttype⟩
              rcases Option.map_eq_some_iff.mp agrees.same with ⟨next, declared, same⟩
              change offsetofLoop spec error names (offset + off) nexttype = _ at resolved
              change next.stripped = nexttype at same
              rw [← same] at resolved
              rcases inductionHypothesis next resolved with ⟨resolves, fails⟩
              constructor
              · rintro ⟨bare, further⟩
                rw [agrees.plain bare, declared]
                exact resolves (further next declared)
              · intro met
                by_cases bare : type.Bare name
                · rw [agrees.plain bare, declared]
                  apply fails
                  intro further
                  refine met ⟨bare, ?_⟩
                  rintro other found
                  cases declared.symm.trans found
                  exact further
                · rcases agrees.met bare with ⟨failed, raised⟩
                  rw [raised]
                  exact ⟨failed, rfl⟩

theorem components_ne_nil (spec : PyString) : components spec ≠ [] :=
  List.splitOn_ne_nil '.' spec

section Offsets

variable {type : CType} {path : PyString} {offset : Nat} {last : CType}

/-- An offset is that of the loop, in a type with members. -/
theorem offsetof_resolves (resolves : offsetof type path true = .ok (some offset)) :
    type.described.isComposite = true ∧ Exists fun last : CType =>
      offsetofLoop path true (components path) 0 type.described = .ok (some (offset, last)) := by
  rw [offsetof, offsetofType, offsetofPath] at resolves
  cases composite : type.described.isComposite with
  | false =>
      rw [composite] at resolves
      cases resolves
  | true =>
      rw [composite, if_pos rfl] at resolves
      cases loop : offsetofLoop path true (components path) 0 type.described with
      | error failed =>
          rw [loop] at resolves
          cases resolves
      | ok result =>
          rw [loop] at resolves
          cases result with
          | none => cases resolves
          | some res =>
              cases resolves
              exact ⟨rfl, res.2, rfl⟩

theorem offsetof_of_loop (composite : type.described.isComposite = true) {error : Bool}
    (loop : offsetofLoop path error (components path) 0 type.described = .ok (some (offset, last))) :
    offsetof type path error = .ok (some offset) := by
  rw [offsetof, offsetofType, offsetofPath, if_pos composite, loop]

/-- A type without members, and a loop with an exception, end with an exception. -/
theorem offsetof_raises
    (fails : type.described.isComposite = true -> Exists fun failed =>
      offsetofLoop path true (components path) 0 type.described = .error failed) :
    Exists fun failed => offsetof type path true = .error failed := by
  rw [offsetof, offsetofType, offsetofPath]
  cases composite : type.described.isComposite with
  | false => exact ⟨_, rfl⟩
  | true =>
      rcases fails composite with ⟨failed, raised⟩
      rw [if_pos rfl, raised]
      exact ⟨_, rfl⟩

end Offsets

section Answers

variable {type : DeclaredType} {path : PyString} {offset : Nat}

/-- A type that stays a struct or a union when typedefs are stripped, and is no typedef, is
presented as one. -/
theorem seen_isComposite (composite : type.stripped.isComposite = true) :
    type.seen.isComposite = true ∨ Exists fun text => Exists fun target => type = .typedef text target := by
  cases type with
  | composite code text fields => exact Or.inl rfl
  | pointer text target => cases composite
  | typedef text target => exact Or.inr ⟨text, target, rfl⟩
  | other text => cases composite

theorem not_barePath_typedef {text : PyString} {target : DeclaredType} :
    ¬ (DeclaredType.typedef text target).BarePath (components path) := by
  cases names : components path with
  | nil => exact False.elim (components_ne_nil path names)
  | cons name rest => exact fun bare => bare.1

/-- `offsetof` in the presented type: the offset of the stripped type if the search meets no
typedef, and an exception if it meets one. -/
theorem offsetof_seen (resolves : offsetof type.stripped path true = .ok (some offset)) :
    (type.described.BarePath (components path) ->
        forall error, offsetof type.seen path error = .ok (some offset)) ∧
      (¬ type.described.BarePath (components path) ->
        Exists fun failed => offsetof type.seen path true = .error failed) := by
  rcases offsetof_resolves resolves with ⟨composite, last, loop⟩
  by_cases renamed : Exists fun text => Exists fun target => type = .typedef text target
  · rcases renamed with ⟨text, target, rfl⟩
    refine ⟨fun bare => False.elim (not_barePath_typedef bare), fun _ => offsetof_raises ?_⟩
    intro impossible
    cases impossible
  · have stripped : type.stripped.described = type.described.stripped := by
      cases type with
      | typedef text target => exact False.elim (renamed ⟨text, target, rfl⟩)
      | composite code text fields => rfl
      | pointer text target => rfl
      | other text => rfl
    have seen : type.seen.described = type.described.seen := by
      cases type with
      | typedef text target => rfl
      | composite code text fields => rfl
      | pointer text target => rfl
      | other text => rfl
    rw [stripped] at composite loop
    have follows := fun error =>
      offsetofLoop_seen _ type.described (offsetofLoop_resolved (components path) loop error)
    constructor
    · intro bare error
      rcases (follows error).1 bare with ⟨found, same⟩
      rw [← seen] at same
      refine offsetof_of_loop ?_ same
      rw [seen]
      rcases seen_isComposite composite with members | ⟨text, target, met⟩
      · exact members
      · rw [met] at bare
        exact False.elim (not_barePath_typedef bare)
    · intro met
      apply offsetof_raises
      intro _
      rw [seen]
      exact (follows true).2 met

variable (type path) in
/-- The three functions answer as they do for the stripped type.  What `container_of` is given may
be any value, such as a pointer to the member, or it is the member, whose type is stripped as well.
The values that it makes differ in their types and so are compared by their addresses. -/
structure SameAnswers : Prop where
  offset : forall error, offsetof type.seen path error = offsetof type.stripped path error
  hasMember : forall (lookupType : PyString -> Option CType) (seen stripped : TypeSpecifier),
    seen.resolveType lookupType = .ok type.seen ->
      stripped.resolveType lookupType = .ok type.stripped ->
        structHasMember lookupType seen path = structHasMember lookupType stripped path
  container : forall (words : Nat -> Except GdbError Nat) (val : GdbValue),
    (containerOf words val type.seen path).map GdbValue.address =
      (containerOf words val type.stripped path).map GdbValue.address
  member : forall (words : Nat -> Except GdbError Nat) (held : DeclaredType) (address : Option Nat)
    (word : Except GdbError Nat), type.described.pathType (components path) = some held ->
      (containerOf words ⟨held.seen, address, word⟩ type.seen path).map GdbValue.address =
        (containerOf words ⟨held.stripped, address, word⟩ type.stripped path).map GdbValue.address

/-- Where the offsets are the same, `container_of` makes objects at the same address from values with
the same pointer. -/
theorem containerOf_address {one two : CType} (first : offsetof one path true = .ok (some offset))
    (second : offsetof two path true = .ok (some offset)) (words : Nat -> Except GdbError Nat)
    {val other : GdbValue} (same : val.pointer = other.pointer) :
    (containerOf words val one path).map GdbValue.address =
      (containerOf words other two path).map GdbValue.address := by
  rw [containerOf, containerOf, first, second, same]
  rcases other.pointer with _ | failed | word
  · rfl
  · rfl
  · rfl

/-- The functions answer as they do for the stripped type just if they meet no typedef and the
path does not lead to a typedef of a pointer. -/
theorem sameAnswers_iff (resolves : offsetof type.stripped path true = .ok (some offset)) :
    SameAnswers type path <-> type.described.BarePath (components path) ∧
      forall held, type.described.pathType (components path) = some held -> ¬ held.HidesPointer := by
  rcases offsetof_seen resolves with ⟨plain, met⟩
  constructor
  · intro same
    have bare : type.described.BarePath (components path) := by
      by_contra notBare
      rcases met notBare with ⟨failed, raised⟩
      have equal := same.offset true
      rw [raised, resolves] at equal
      cases equal
    refine ⟨bare, fun held leads hides => ?_⟩
    have equal := same.member (fun _ => .ok 0) held (some 0) (.error .memoryError) leads
    rw [containerOf, containerOf, plain bare true, resolves] at equal
    simp only [GdbValue.pointer, hides.seen, hides.2, Bool.false_eq_true, if_false, if_true] at equal
    cases equal
  · rintro ⟨bare, visible⟩
    have raising := plain bare true
    constructor
    · intro error
      rcases offsetof_resolves resolves with ⟨composite, last, loop⟩
      rw [plain bare error, offsetof_of_loop composite (offsetofLoop_resolved _ loop error)]
    · intro lookupType seen stripped seenType strippedType
      rw [structHasMember, structHasMember, seenType, strippedType]
      dsimp only
      rw [raising, resolves]
    · intro words val
      exact containerOf_address raising resolves words rfl
    · intro words held address word leads
      refine containerOf_address raising resolves words ?_
      simp only [GdbValue.pointer, DeclaredType.isPointer_seen (visible held leads)]

end Answers

/-! ## `decode_uuid_t` -/

/-- A value as `decode_uuid_t` looks at it: its type, its members, and the members of what it
points to. -/
structure UuidTValue where
  type : DeclaredType
  member : PyString -> Except GdbError ArrayValue
  pointee : PyString -> Except GdbError ArrayValue

/-- The exceptions of `decode_uuid_t`. -/
inductive UuidTError where
  | util (error : UtilError)
  | uuid (error : UuidError)

section DecodeUuidT

variable (sameType : DeclaredType -> DeclaredType -> Bool) (uuidT : DeclaredType)

/-- The part of `decode_uuid_t` after the type has been checked. -/
def decodeUuidMember (member : PyString -> Except GdbError ArrayValue) : Except UuidTError UUID :=
  match structHasMember (fun _ => none) (.type uuidT.seen) "b".toList with
  | .error error => .error (.util error)
  | .ok hasB =>
      match member (if hasB then "b".toList else "__u_bits".toList) with
      | .error error => .error (.uuid (.gdb error))
      | .ok value =>
          match decodeUuid value with
          | .error error => .error (.uuid error)
          | .ok uuid => .ok uuid

/-- `decode_uuid_t`.  How gdb compares types is a parameter. -/
def decodeUuidT (value : UuidTValue) : Except UuidTError UUID :=
  let refused : Except UuidTError UUID :=
    .error (.uuid (.typeError "value must describe a uuid_t".toList))
  if sameType value.type uuidT then decodeUuidMember uuidT value.member
  else
    match value.type with
    | .pointer _ target =>
        if sameType target uuidT then decodeUuidMember uuidT value.pointee else refused
    | .composite _ _ _ => refused
    | .typedef _ _ => refused
    | .other _ => refused

/-- The value is a `uuid_t`, or a pointer to one. -/
def UuidTValue.IsUuidT (value : UuidTValue) : Prop :=
  sameType value.type uuidT = true ∨ Exists fun text => Exists fun target =>
    value.type = .pointer text target ∧ sameType target uuidT = true

variable {sameType uuidT}

/-- A `uuid_t` is decoded from its array, if the type has members and one of them is `b`. -/
theorem decodeUuidT_of_member {value : UuidTValue} {array : ArrayValue} {uuid : UUID}
    (isUuidT : sameType value.type uuidT = true)
    (hasB : structHasMember (fun _ => none) (.type uuidT.seen) "b".toList = .ok true)
    (read : value.member "b".toList = .ok array) (decoded : decodeUuid array = .ok uuid) :
    decodeUuidT sameType uuidT value = .ok uuid := by
  rw [decodeUuidT, if_pos isUuidT, decodeUuidMember, hasB]
  dsimp only
  rw [if_pos rfl, read]
  dsimp only
  rw [decoded]

/-- No `uuid_t` is decoded when the type is a typedef. -/
theorem decodeUuidT_typedef {value : UuidTValue} (isUuidT : value.IsUuidT sameType uuidT)
    (typedef : uuidT.isTypedef = true) :
    decodeUuidT sameType uuidT value =
      .error (.util (notStructOrUnionError "gdbtype".toList uuidT.seen)) := by
  have raises : forall member, decodeUuidMember uuidT member =
      .error (.util (notStructOrUnionError "gdbtype".toList uuidT.seen)) := by
    intro member
    cases uuidT with
    | typedef text target => rfl
    | composite code text fields => cases typedef
    | pointer text target => cases typedef
    | other text => cases typedef
  rw [decodeUuidT]
  rcases isUuidT with same | ⟨text, target, pointer, same⟩
  · rw [if_pos same, raises]
  · rw [pointer]
    dsimp only
    rw [if_pos same, raises, raises, ite_self]

end DecodeUuidT

/-- Where typedefs matter.  The three functions answer as they do for the stripped type just
if their search meets no typedef and the member is no typedef of a pointer.  With a type that is
a typedef, `decode_uuid_t` decodes nothing. -/
theorem typedefs_matter_iff (type : DeclaredType) :
    (forall (path : PyString) (offset : Nat), offsetof type.stripped path true = .ok (some offset) ->
        (SameAnswers type path <-> type.described.BarePath (components path) ∧
          forall held, type.described.pathType (components path) = some held -> ¬ held.HidesPointer)) ∧
    forall (sameType : DeclaredType -> DeclaredType -> Bool) (value : UuidTValue),
      type.isTypedef = true -> value.IsUuidT sameType type ->
        decodeUuidT sameType type value =
          .error (.util (notStructOrUnionError "gdbtype".toList type.seen)) :=
  ⟨fun _ _ resolves => sameAnswers_iff resolves,
    fun _ _ typedef isUuidT => decodeUuidT_typedef isUuidT typedef⟩

/-- The name of the type in the kernel. -/
def uuidTName : PyString :=
  "uuid_t".toList

/-- `uuid_t` as the kernel declares it. -/
def uuidTType : DeclaredType :=
  .typedef uuidTName
    (.composite .struct "struct {...}".toList [⟨some "b".toList, 0, .other "__u8 [16]".toList⟩])

/-- A `uuid_t` in memory. -/
def uuidTValue (bytes : List UInt8) : UuidTValue where
  type := uuidTType
  member := fun _ => .ok (byteArray false bytes)
  pointee := fun _ => .error .memoryError

theorem uuidTType_resolves : offsetof uuidTType.stripped "b".toList true = .ok (some 0) := by
  rfl

/-- The name of a typedef of a pointer. -/
def handleTName : PyString :=
  "handle_t".toList

/-- A struct with a member whose type is a typedef of a pointer. -/
def handleType : DeclaredType :=
  .composite .struct "struct request".toList
    [⟨some "handle".toList, 64, .typedef handleTName (.pointer "void *".toList (.other "void".toList))⟩]

theorem handleType_resolves : offsetof handleType.stripped "handle".toList true = .ok (some 8) := by
  rfl

/-- The path to the handle meets no typedef, but the handle is one. -/
theorem typedefs_matter_iff_uuidT :
    handleType.described.BarePath (components "handle".toList) ∧ ¬ SameAnswers handleType "handle".toList ∧
      ¬ SameAnswers uuidTType "b".toList ∧
      decodeUuidT (fun _ _ => true) uuidTType (uuidTValue (List.replicate 16 1)) =
        .error (.util (notStructOrUnionError "gdbtype".toList uuidTType.seen)) := by
  have handle := (typedefs_matter_iff handleType).1 "handle".toList 8 handleType_resolves
  have uuid := (typedefs_matter_iff uuidTType).1 "b".toList 0 uuidTType_resolves
  refine ⟨⟨trivial, fun _ _ => trivial⟩, fun same => ?_, fun same => ?_,
    (typedefs_matter_iff uuidTType).2 (fun _ _ => true) (uuidTValue (List.replicate 16 1)) rfl (Or.inl rfl)⟩
  · exact (handle.mp same).2 _ rfl ⟨rfl, rfl⟩
  · exact not_barePath_typedef (uuid.mp same).1

/-- The member `b` of `uuid_t` is at the offset 0 of the struct, and the three functions do
not find it. -/
theorem uuidTType_not_sameAnswers :
    offsetof uuidTType.stripped "b".toList true = .ok (some 0) ∧
      ¬ SameAnswers uuidTType "b".toList ∧
      forall bytes : List UInt8, forall uuid : UUID,
        decodeUuidT (fun _ _ => true) uuidTType (uuidTValue bytes) ≠ .ok uuid := by
  refine ⟨uuidTType_resolves, ?_, ?_⟩
  · intro same
    have equal := same.offset true
    rw [uuidTType_resolves] at equal
    cases equal
  · intro bytes uuid decoded
    rw [decodeUuidT_typedef (Or.inl rfl) rfl] at decoded
    cases decoded

end Util
end CrashPython

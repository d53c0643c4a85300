import CrashPython.Library.PyString

namespace CrashPython
namespace Infra

open Library

/-!
# Delayed types of `crash/infra/lookup.py`

`resolve_type` turns a C type name into the name that gdb is asked for, a name
usable as an attribute, and a flag for pointer types.  A `DelayedType` resolves
its name, and the `TypeCallback` it creates resolves the result once more.
-/

/-- The result of `resolve_type`. -/
structure ResolvedType where
  name : PyString
  attrname : PyString
  pointer : Bool
deriving DecidableEq, Repr

/-- `TypeCallback.resolve_type`.  A blank name has no last character, and
`name[-1]` raises `IndexError`. -/
def resolveType (given : PyString) : Option ResolvedType :=
  let stripped := given.strip
  match stripped.getLast? with
  | none => none
  | some last =>
      let pointer := decide (last = '*')
      let name := if pointer then PyString.strip stripped.dropLast else stripped
      let stem := if name.take 7 = "struct ".toList then PyString.strip (name.drop 7) else name
      let suffix := if pointer then "_p_type".toList else "_type".toList
      some {
        name := name
        attrname := PyString.replace ' ' '_' (stem ++ suffix)
        pointer := pointer }

/-- A `DelayedType`, with the name that its `TypeCallback` looks up. -/
structure DelayedType where
  name : PyString
  attrname : PyString
  pointer : Bool
  lookupName : PyString
deriving DecidableEq, Repr

/-- The constructor of `DelayedType`. -/
def DelayedType.create (given : PyString) : Option DelayedType :=
  match resolveType given with
  | none => none
  | some resolved =>
      match resolveType resolved.name with
      | none => none
      | some callback =>
          some {
            name := resolved.name
            attrname := resolved.attrname
            pointer := resolved.pointer
            lookupName := callback.name }

/-- A `gdb.Type`, as far as delayed types can tell. -/
inductive GdbType where
  | base (identity : Nat)
  | pointer (target : GdbType)
deriving DecidableEq, Repr

/-- `DelayedType.callback` on the result of the lookup. -/
def DelayedType.collected (lookup : PyString -> GdbType) (delayed : DelayedType) : GdbType :=
  if delayed.pointer then .pointer (lookup delayed.lookupName) else lookup delayed.lookupName

/-! ## What a C type name denotes -/

/-- The type of a name that is read from its end: every star makes a pointer. -/
def denotesReversed (lookup : PyString -> GdbType) : PyString -> GdbType
  | [] => lookup []
  | last :: rest =>
      if PyString.isSpace last then denotesReversed lookup rest
      else if last = '*' then .pointer (denotesReversed lookup rest)
      else lookup (PyString.lstrip (last :: rest).reverse)

/-- The type that a C type name denotes. -/
def denotes (lookup : PyString -> GdbType) (name : PyString) : GdbType :=
  denotesReversed lookup name.reverse

/-! ## Base names -/

/-- The name as `resolve_type` gives it back. -/
def baseName (name : PyString) : PyString :=
  ((resolveType name).map ResolvedType.name).getD []

/-- The attribute name that belongs to a type name. -/
def attributeName (name : PyString) : PyString :=
  ((resolveType name).map ResolvedType.attrname).getD []

section Resolving

variable {name : PyString} {resolved : ResolvedType}

theorem baseName_of_resolve (result : resolveType name = some resolved) :
    baseName name = resolved.name := by
  rw [baseName, result]
  rfl

theorem attributeName_of_resolve (result : resolveType name = some resolved) :
    attributeName name = resolved.attrname := by
  rw [attributeName, result]
  rfl

/-- The parts of a successful resolution. -/
theorem resolveType_inv (result : resolveType name = some resolved) :
    Exists fun last : Char => name.strip.getLast? = some last ∧
      resolved.pointer = decide (last = '*') ∧
      resolved.name = (if last = '*' then PyString.strip name.strip.dropLast else name.strip) ∧
      Exists fun stem : PyString =>
        (stem = resolved.name ∧ resolved.name.take 7 ≠ "struct ".toList ∨
          stem = PyString.strip (resolved.name.drop 7) ∧ resolved.name.take 7 = "struct ".toList) ∧
        resolved.attrname = PyString.replace ' ' '_'
          (stem ++ if last = '*' then "_p_type".toList else "_type".toList) := by
  rw [resolveType] at result
  cases ending : name.strip.getLast? with
  | none =>
      rw [ending] at result
      cases result
  | some last =>
      rw [ending] at result
      cases result
      refine ⟨last, rfl, rfl, by simp only [decide_eq_true_eq], ?_⟩
      simp only [decide_eq_true_eq]
      generalize (if last = '*' then PyString.strip name.strip.dropLast else name.strip) = base
      by_cases prefixed : base.take 7 = "struct ".toList
      · exact ⟨PyString.strip (base.drop 7), Or.inr ⟨rfl, prefixed⟩, by rw [if_pos prefixed]⟩
      · exact ⟨base, Or.inl ⟨rfl, prefixed⟩, by rw [if_neg prefixed]⟩

/-- The base name of a pointer type is shorter. -/
theorem length_pointer_lt (result : resolveType name = some resolved) (star : resolved.pointer = true) :
    resolved.name.length < name.length := by
  rcases resolveType_inv result with ⟨last, ending, pointer, shape, _⟩
  rw [pointer, decide_eq_true_eq] at star
  rw [if_pos star] at shape
  have nonempty : name.strip ≠ [] := by
    intro empty
    rw [empty] at ending
    cases ending
  have positive := List.length_pos_of_ne_nil nonempty
  have inner := (PyString.strip_sublist name.strip.dropLast).length_le
  have outer := (PyString.strip_sublist name).length_le
  rw [List.length_dropLast] at inner
  rw [shape]
  omega

theorem name_of_not_pointer (result : resolveType name = some resolved)
    (star : resolved.pointer = false) : resolved.name = name.strip ∧
      Exists fun last : Char => name.strip.getLast? = some last ∧ last ≠ '*' := by
  rcases resolveType_inv result with ⟨last, ending, pointer, shape, _⟩
  rw [pointer, decide_eq_false_iff_not] at star
  rw [if_neg star] at shape
  exact ⟨shape, last, ending, star⟩

/-- A name that is not its own base name is longer than it. -/
theorem length_baseName_lt (result : resolveType name = some resolved) (changed : resolved.name ≠ name) :
    resolved.name.length < name.length := by
  cases star : resolved.pointer with
  | true => exact length_pointer_lt result star
  | false =>
      rw [(name_of_not_pointer result star).1] at changed ⊢
      exact PyString.length_strip_lt changed

/-- A name that is its own base name is no pointer and has bare ends. -/
theorem resolveType_of_base (result : resolveType name = some resolved) (same : resolved.name = name) :
    resolved.pointer = false ∧ name.strip = name ∧
      Exists fun last : Char => name.getLast? = some last ∧ last ≠ '*' := by
  cases star : resolved.pointer with
  | true =>
      have shorter := length_pointer_lt result star
      rw [same] at shorter
      exact False.elim (Nat.lt_irrefl _ shorter)
  | false =>
      rcases name_of_not_pointer result star with ⟨shape, last, ending, other⟩
      rw [same] at shape
      rw [← shape] at ending
      exact ⟨rfl, shape.symm, last, ending, other⟩

/-- A name that is its own base name denotes what is looked up under it. -/
theorem denotes_of_base (lookup : PyString -> GdbType) (result : resolveType name = some resolved)
    (same : resolved.name = name) : denotes lookup name = lookup name := by
  rcases resolveType_of_base result same with ⟨_, bare, last, ending, other⟩
  have solid : PyString.isSpace last = false := by
    apply PyString.getLast?_strip
    rw [bare]
    exact ending
  have start : PyString.lstrip name = name := by
    apply PyString.lstrip_of_head
    intro character found
    apply PyString.head?_strip
    rw [bare]
    exact found
  rcases List.getLast?_eq_some_iff.mp ending with ⟨front, shape⟩
  have reversed : name.reverse = last :: front.reverse := by
    rw [shape, List.reverse_append]
    rfl
  rw [denotes, reversed, denotesReversed, solid, if_neg Bool.false_ne_true, if_neg other, ← reversed,
    List.reverse_reverse, start]

/-! ## Attribute names -/

theorem head?_base (result : resolveType name = some resolved) {first : Char}
    (found : resolved.name.head? = some first) : PyString.isSpace first = false := by
  rcases resolveType_inv result with ⟨last, _, _, shape, _⟩
  rw [shape] at found
  split at found
  · exact PyString.head?_strip found
  · exact PyString.head?_strip found

theorem suffix_attributeName (result : resolveType name = some resolved) :
    "_type".toList <:+ resolved.attrname := by
  rcases resolveType_inv result with ⟨last, _, _, _, stem, _, shape⟩
  rw [shape, PyString.replace_append]
  split
  · exact List.IsSuffix.trans (by decide) (List.suffix_append _ _)
  · exact List.suffix_append _ _

/-- An attribute name starts with a character that is no white space. -/
theorem head?_attributeName (result : resolveType name = some resolved) {first : Char}
    (found : resolved.attrname.head? = some first) : PyString.isSpace first = false := by
  rcases resolveType_inv result with ⟨last, _, _, _, stem, source, shape⟩
  have start : forall character, stem.head? = some character -> PyString.isSpace character = false := by
    intro character here
    rcases source with ⟨same, _⟩ | ⟨same, _⟩
    · rw [same] at here
      exact head?_base result here
    · rw [same] at here
      exact PyString.head?_strip here
  rw [shape] at found
  cases stem with
  | nil =>
      split at found
      · cases found
        decide
      · cases found
        decide
  | cons character rest =>
      have bare := start character rfl
      have other : character ≠ ' ' := by
        intro same
        subst same
        cases bare
      rw [List.cons_append, PyString.replace, List.map_cons, List.head?_cons, if_neg other] at found
      cases found
      exact bare

/-- An attribute name is its own base name. -/
theorem baseName_attributeName (result : resolveType name = some resolved) :
    baseName resolved.attrname = resolved.attrname := by
  rcases suffix_attributeName result with ⟨front, shape⟩
  have ending : resolved.attrname.getLast? = some 'e' := by
    rw [← shape, List.getLast?_append]
    rfl
  have bare : resolved.attrname.strip = resolved.attrname := by
    apply PyString.strip_of_edges
    · exact fun character found => head?_attributeName result found
    · intro character found
      rw [ending] at found
      cases found
      decide
  have resolves : Exists fun again : ResolvedType =>
      resolveType resolved.attrname = some again ∧ again.name = resolved.attrname := by
    rw [resolveType, bare, ending]
    exact ⟨_, rfl, rfl⟩
  rcases resolves with ⟨again, resolvesTo, same⟩
  rw [baseName_of_resolve resolvesTo, same]

/-- The attribute name of a base name is another name. -/
theorem attributeName_ne (result : resolveType name = some resolved) (same : resolved.name = name) :
    resolved.attrname ≠ name := by
  have plain := (resolveType_of_base result same).1
  rcases resolveType_inv result with ⟨last, _, pointer, _, stem, source, shape⟩
  rw [plain] at pointer
  rw [if_neg (of_decide_eq_false pointer.symm)] at shape
  intro equal
  rcases source with ⟨whole, _⟩ | ⟨_, prefixed⟩
  · have lengths := congrArg List.length shape
    rw [equal, PyString.replace, List.length_map, List.length_append, whole, same] at lengths
    have five : ("_type".toList : PyString).length = 5 := by decide
    omega
  · have space : ' ' ∈ name := by
      rw [same] at prefixed
      have taken : ' ' ∈ name.take 7 := by
        rw [prefixed]
        decide
      exact List.mem_of_mem_take taken
    rw [← equal, shape] at space
    exact PyString.notMem_replace (by decide) _ space

end Resolving

end Infra
end CrashPython

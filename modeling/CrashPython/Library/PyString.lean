import Mathlib.Data.List.DropRight
import Mathlib.Data.List.TakeWhile

namespace CrashPython
namespace Library

/-!
# Python strings

A string is the list of its code points.  The operations here are the methods
of `str` with their documented behaviour.
-/

abbrev PyString := List Char

namespace PyString

/-- `str.isspace` for one character. -/
def isSpace (character : Char) : Bool :=
  let code := character.toNat
  (9 ≤ code && code ≤ 13) || (28 ≤ code && code ≤ 32) || code == 0x85 || code == 0xa0 ||
    code == 0x1680 || (0x2000 ≤ code && code ≤ 0x200a) || code == 0x2028 || code == 0x2029 ||
    code == 0x202f || code == 0x205f || code == 0x3000

def lstrip (text : PyString) : PyString :=
  text.dropWhile isSpace

def rstrip (text : PyString) : PyString :=
  text.rdropWhile isSpace

/-- `str.strip` without an argument. -/
def strip (text : PyString) : PyString :=
  rstrip (lstrip text)

/-- `str.replace` for two single characters. -/
def replace (old new : Char) (text : PyString) : PyString :=
  text.map fun character => if character = old then new else character

/-- A number in a base, as `format` writes it. -/
def digits (base number : Nat) : PyString :=
  Nat.toDigits base number

/-- A field that is filled on the left. -/
def padLeft (fill : Char) (width : Nat) (text : PyString) : PyString :=
  List.replicate (width - text.length) fill ++ text

/-- A field that is filled with blanks on the right. -/
def padRight (width : Nat) (text : PyString) : PyString :=
  text ++ List.replicate (width - text.length) ' '

/-- A field that is filled with blanks on both sides, an odd one on the right. -/
def center (width : Nat) (text : PyString) : PyString :=
  let missing := width - text.length
  List.replicate (missing / 2) ' ' ++ text ++ List.replicate (missing - missing / 2) ' '

theorem strip_sublist (text : PyString) : (strip text).Sublist text :=
  (List.rdropWhile_prefix isSpace _).sublist.trans (List.dropWhile_sublist isSpace)

/-- Stripping that changes anything makes a string shorter. -/
theorem length_strip_lt {text : PyString} (changed : strip text ≠ text) :
    (strip text).length < text.length := by
  apply Nat.lt_of_le_of_ne (strip_sublist text).length_le
  intro same
  exact changed ((strip_sublist text).eq_of_length same)

theorem head?_strip {text : PyString} {first : Char} (found : (strip text).head? = some first) :
    isSpace first = false := by
  have start : (lstrip text).head? = some first := by
    rcases List.rdropWhile_prefix isSpace (lstrip text) with ⟨rest, shape⟩
    change strip text ++ rest = lstrip text at shape
    rw [← shape, List.head?_append, found]
    rfl
  have edge := List.head?_dropWhile_not isSpace text
  rw [lstrip] at start
  rw [start] at edge
  exact edge

theorem getLast?_strip {text : PyString} {last : Char} (found : (strip text).getLast? = some last) :
    isSpace last = false := by
  rcases List.getLast?_eq_some_iff.mp found with ⟨front, shape⟩
  have nonempty : strip text ≠ [] := by
    rw [shape]
    exact List.append_ne_nil_of_right_ne_nil _ (List.cons_ne_nil _ _)
  have edge := List.rdropWhile_last_not isSpace (lstrip text) nonempty
  rw [List.getLast?_eq_some_getLast nonempty] at found
  cases found
  exact Bool.eq_false_iff.mpr edge

theorem lstrip_of_head {text : PyString}
    (first : forall character, text.head? = some character -> isSpace character = false) :
    lstrip text = text := by
  cases text with
  | nil => rfl
  | cons character rest =>
      rw [lstrip, List.dropWhile_cons, first character rfl]
      rfl

/-- A string without white space at its ends is not changed. -/
theorem strip_of_edges {text : PyString}
    (first : forall character, text.head? = some character -> isSpace character = false)
    (last : forall character, text.getLast? = some character -> isSpace character = false) :
    strip text = text := by
  rw [strip, lstrip_of_head first, rstrip, List.rdropWhile_eq_self_iff]
  intro nonempty space
  rw [last _ (List.getLast?_eq_some_getLast nonempty)] at space
  cases space

theorem replace_append (old new : Char) (left right : PyString) :
    replace old new (left ++ right) = replace old new left ++ replace old new right :=
  List.map_append

theorem notMem_replace {old new : Char} (different : old ≠ new) (text : PyString) :
    old ∉ replace old new text := by
  intro member
  rcases List.mem_map.mp member with ⟨character, _, same⟩
  split at same
  · exact different same.symm
  · rename_i other
    exact other same

end PyString
end Library
end CrashPython

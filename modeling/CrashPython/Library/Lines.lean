import CrashPython.Library.PyString

namespace CrashPython
namespace Library
namespace PyString

/-!
# Lines of a text

`str.splitlines` cuts a text at its line breaks, of which there are ten characters and the
pair of a carriage return and a line feed.  A break at the end of the text is not followed
by an empty line.
-/

/-- A character that ends a line. -/
def isLineBreak (character : Char) : Bool :=
  let code := character.toNat
  (10 ≤ code && code ≤ 13) || (28 ≤ code && code ≤ 30) || code == 0x85 || code == 0x2028 ||
    code == 0x2029

/-- The rest of `splitlines`: whether a carriage return has just ended a line, and the line
that has been begun. -/
def linesFrom : Bool -> PyString -> PyString -> List PyString
  | _, begun, [] => if begun = [] then [] else [begun]
  | afterReturn, begun, character :: text =>
      if afterReturn && character == '\n' then linesFrom false begun text
      else if isLineBreak character then begun :: linesFrom (character == '\r') [] text
      else linesFrom false (begun ++ [character]) text

/-- `str.splitlines` without an argument. -/
def splitlines (text : PyString) : List PyString :=
  linesFrom false [] text

/-- A text without line breaks. -/
def Unbroken (text : PyString) : Prop :=
  forall character, character ∈ text -> isLineBreak character = false

instance (text : PyString) : Decidable (Unbroken text) :=
  List.decidableBAll (fun character => isLineBreak character = false) text

/-- Line breaks are white space. -/
theorem isSpace_of_isLineBreak {character : Char} (ends : isLineBreak character = true) :
    isSpace character = true := by
  simp only [isLineBreak, isSpace, Bool.or_eq_true, Bool.and_eq_true, decide_eq_true_eq,
    beq_iff_eq] at ends ⊢
  omega

theorem unbroken_of_plain {text : PyString}
    (plain : forall character, character ∈ text -> isSpace character = false) : Unbroken text := by
  intro character member
  by_contra ends
  have space := isSpace_of_isLineBreak (Bool.not_eq_false _ ▸ ends)
  rw [plain character member] at space
  cases space

theorem Unbroken.append {first second : PyString} (one : Unbroken first) (two : Unbroken second) :
    Unbroken (first ++ second) := by
  intro character member
  rcases List.mem_append.mp member with before | after
  · exact one character before
  · exact two character after

theorem Unbroken.cons {first : Char} {text : PyString} (rest : Unbroken text)
    (one : isLineBreak first = false) : Unbroken (first :: text) := by
  intro character member
  rcases List.mem_cons.mp member with same | later
  · rw [same]
    exact one
  · exact rest character later

theorem linesFrom_unbroken {line : PyString} (unbroken : Unbroken line) (begun text : PyString) :
    linesFrom false begun (line ++ text) = linesFrom false (begun ++ line) text := by
  induction line generalizing begun with
  | nil => rw [List.append_nil, List.nil_append]
  | cons character line inductionHypothesis =>
      have here := unbroken character List.mem_cons_self
      have later : Unbroken line := fun other member => unbroken other (List.mem_cons_of_mem _ member)
      rw [List.cons_append, linesFrom, Bool.false_and, if_neg Bool.false_ne_true, here,
        if_neg Bool.false_ne_true, inductionHypothesis later, List.append_assoc, List.singleton_append]

/-- A line that is ended by a line feed. -/
theorem splitlines_cons {line : PyString} (unbroken : Unbroken line) (text : PyString) :
    splitlines (line ++ '\n' :: text) = line :: splitlines text := by
  rw [splitlines, linesFrom_unbroken unbroken, List.nil_append, linesFrom, Bool.false_and,
    if_neg Bool.false_ne_true]
  rfl

/-- A last line that is not ended, if it is one. -/
theorem splitlines_last {line : PyString} (unbroken : Unbroken line) :
    splitlines line = if line = [] then [] else [line] := by
  have all := linesFrom_unbroken unbroken [] []
  rw [List.append_nil, List.nil_append] at all
  rw [splitlines, all, linesFrom]

end PyString
end Library
end CrashPython

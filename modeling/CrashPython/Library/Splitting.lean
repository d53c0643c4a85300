import Mathlib.Data.List.Basic
import Mathlib.Data.List.Infix

namespace CrashPython
namespace Library

/-!
# Joining and splitting

`sep.join(pieces)` puts a separator between pieces, and `text.split(sep)` cuts a text at the
separator, at its first occurrence, the first one behind that, and so on.  Splitting undoes
joining if no piece but the last has an occurrence of the separator begin in it, not even
one that ends in the separator that follows the piece.
-/

section Splitting

variable {Symbol : Type} [DecidableEq Symbol]

/-- The rest of a split.  Some symbols of a separator are still to be skipped, and a piece
has been begun. -/
def splitFrom (separator : List Symbol) : Nat -> List Symbol -> List Symbol -> List (List Symbol)
  | _, piece, [] => [piece]
  | skipped + 1, piece, _ :: text => splitFrom separator skipped piece text
  | 0, piece, symbol :: text =>
      if separator <+: symbol :: text then
        piece :: splitFrom separator (separator.length - 1) [] text
      else splitFrom separator 0 (piece ++ [symbol]) text

/-- `text.split(separator)`, for a separator that is not empty. -/
def split (separator text : List Symbol) : List (List Symbol) :=
  splitFrom separator 0 [] text

/-- No occurrence of the separator begins in the piece, when the separator follows it. -/
def Clear (separator piece : List Symbol) : Prop :=
  forall position, position < piece.length -> ¬ separator <+: (piece ++ separator).drop position

/-- Pieces that can be told apart when they are joined: all but the last are clear, and the
last does not contain the separator. -/
def Separable (separator : List Symbol) : List (List Symbol) -> Prop
  | [] => True
  | [piece] => ¬ separator <:+: piece
  | piece :: next :: pieces => Clear separator piece ∧ Separable separator (next :: pieces)

variable {separator piece text : List Symbol}

theorem splitFrom_skip (skipped : List Symbol) :
    splitFrom separator skipped.length piece (skipped ++ text) = splitFrom separator 0 piece text := by
  induction skipped with
  | nil => rfl
  | cons symbol skipped inductionHypothesis =>
      rw [List.cons_append, List.length_cons, splitFrom, inductionHypothesis]

/-- At an occurrence of the separator the piece ends. -/
theorem splitFrom_separator (nonempty : separator ≠ []) :
    splitFrom separator 0 piece (separator ++ text) = piece :: splitFrom separator 0 [] text := by
  cases separator with
  | nil => exact False.elim (nonempty rfl)
  | cons first rest =>
      have here : first :: rest <+: first :: (rest ++ text) := ⟨text, rfl⟩
      rw [List.cons_append, splitFrom, if_pos here, List.length_cons, Nat.add_sub_cancel,
        splitFrom_skip]

/-- A text without the separator is one piece. -/
theorem splitFrom_of_not_infix (without : ¬ separator <:+: text) :
    splitFrom separator 0 piece text = [piece ++ text] := by
  induction text generalizing piece with
  | nil => rw [splitFrom, List.append_nil]
  | cons symbol text inductionHypothesis =>
      have notHere : ¬ separator <+: symbol :: text := fun here => without here.isInfix
      have notLater : ¬ separator <:+: text :=
        fun later => without (later.trans (List.suffix_cons symbol text).isInfix)
      rw [splitFrom, if_neg notHere, inductionHypothesis notLater, List.append_assoc,
        List.singleton_append]

omit [DecidableEq Symbol] in
theorem Clear.tail {symbol : Symbol} (clear : Clear separator (symbol :: piece)) :
    Clear separator piece := by
  intro position inside
  exact clear (position + 1) (Nat.succ_lt_succ inside)

/-- A clear piece ends at the separator that follows it. -/
theorem splitFrom_of_clear (nonempty : separator ≠ []) (clear : Clear separator piece)
    (begun : List Symbol) :
    splitFrom separator 0 begun (piece ++ separator ++ text) =
      (begun ++ piece) :: splitFrom separator 0 [] text := by
  induction piece generalizing begun with
  | nil => rw [List.nil_append, List.append_nil, splitFrom_separator nonempty]
  | cons symbol piece inductionHypothesis =>
      have notHere : ¬ separator <+: symbol :: (piece ++ separator ++ text) := by
        intro here
        apply clear 0 (Nat.succ_pos _)
        rw [List.drop_zero]
        refine List.prefix_of_prefix_length_le here ⟨text, by simp⟩ ?_
        rw [List.length_append]
        exact Nat.le_add_left _ _
      rw [List.cons_append, List.cons_append, splitFrom, if_neg notHere,
        inductionHypothesis clear.tail, List.append_assoc, List.singleton_append]

/-- An occurrence of the separator ends the first piece, if no earlier one does. -/
theorem splitFrom_head (nonempty : separator ≠ []) {position : Nat}
    (occurs : separator <+: text.drop position) (begun : List Symbol) :
    Exists fun first : List Symbol => Exists fun rest : List (List Symbol) =>
      splitFrom separator 0 begun text = first :: rest ∧ first.length ≤ begun.length + position := by
  induction text generalizing begun position with
  | nil =>
      rw [List.drop_nil, List.prefix_nil] at occurs
      exact False.elim (nonempty occurs)
  | cons symbol text inductionHypothesis =>
      rw [splitFrom]
      by_cases here : separator <+: symbol :: text
      · rw [if_pos here]
        exact ⟨begun, _, rfl, Nat.le_add_right _ _⟩
      · rw [if_neg here]
        cases position with
        | zero => exact False.elim (here occurs)
        | succ position =>
            rcases inductionHypothesis occurs (begun ++ [symbol]) with ⟨first, rest, shape, short⟩
            refine ⟨first, rest, shape, ?_⟩
            rw [List.length_append, List.length_singleton] at short
            omega

/-- A split whose first piece is what stands before a position has no occurrence before it. -/
theorem not_prefix_of_split (nonempty : separator ≠ []) {rest : List (List Symbol)}
    (shape : split separator text = piece :: rest) (position : Nat) (before : position < piece.length) :
    ¬ separator <+: text.drop position := by
  intro occurs
  rcases splitFrom_head nonempty occurs [] with ⟨first, others, same, short⟩
  change split separator text = _ at same
  cases shape.symm.trans same
  rw [List.length_nil, Nat.zero_add] at short
  exact absurd before (Nat.not_lt.mpr short)

/-- Splitting undoes joining just if the pieces are separable. -/
theorem split_intercalate_iff (nonempty : separator ≠ []) (first : List Symbol)
    (pieces : List (List Symbol)) :
    split separator (separator.intercalate (first :: pieces)) = first :: pieces <->
      Separable separator (first :: pieces) := by
  induction pieces generalizing first with
  | nil =>
      rw [List.intercalate_singleton, Separable]
      constructor
      · rintro shape ⟨before, behind, same⟩
        refine not_prefix_of_split nonempty shape before.length ?_ ?_
        · rw [← same, List.length_append, List.length_append]
          have positive := List.length_pos_of_ne_nil nonempty
          omega
        · rw [← same, List.append_assoc, List.drop_left]
          exact List.prefix_append _ _
      · intro without
        exact splitFrom_of_not_infix without
  | cons next pieces inductionHypothesis =>
      rw [List.intercalate_cons_cons, Separable, ← inductionHypothesis next]
      have cut : forall text, Clear separator first ->
          split separator (first ++ separator ++ text) = first :: split separator text :=
        fun _ clear => splitFrom_of_clear nonempty clear []
      constructor
      · intro shape
        have clear : Clear separator first := by
          intro position before occurs
          exact not_prefix_of_split nonempty shape position before
            (occurs.trans ((List.prefix_append _ _).drop position))
        exact ⟨clear, (List.cons.inj ((cut _ clear).symm.trans shape)).2⟩
      · rintro ⟨clear, rest⟩
        exact (cut _ clear).trans (congrArg (List.cons first) rest)

omit [DecidableEq Symbol] in
/-- A separator of one symbol has only to be absent from the pieces. -/
theorem clear_singleton {symbol : Symbol} : Clear [symbol] piece <-> symbol ∉ piece := by
  constructor
  · intro clear member
    rcases List.append_of_mem member with ⟨before, behind, same⟩
    apply clear before.length
    · rw [same, List.length_append, List.length_cons]
      omega
    · rw [same, List.append_assoc, List.drop_left]
      exact ⟨behind ++ [symbol], rfl⟩
  · intro absent position inside occurs
    rw [List.drop_append_of_le_length (Nat.le_of_lt inside), List.drop_eq_getElem_cons inside] at occurs
    rcases occurs with ⟨rest, same⟩
    apply absent
    rw [(List.cons.inj same).1]
    exact List.getElem_mem inside

end Splitting

end Library
end CrashPython

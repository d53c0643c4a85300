import CrashPython.Library.PyString
import Mathlib.Data.List.Infix

namespace CrashPython
namespace Library

/-!
Patterns of the shell, as `fnmatch.translate` of Python reads them.

A star stands for any text and a question mark for any character.  A bracket opens a set of
characters and of ranges, which an exclamation mark complements; a closing bracket in front is a
member.  A bracket that is not closed is a character like others.
-/

/-- What a pattern is made of. -/
inductive GlobItem where
  | anything
  | single
  | oneOf (negated : Bool) (ranges : List (Char × Char))
  | literal (character : Char)
deriving DecidableEq, Repr

/-- The characters that an item stands for, if it is not a star. -/
def GlobItem.admits : GlobItem -> Char -> Bool
  | .anything, _ => false
  | .single, _ => true
  | .oneOf negated ranges, character =>
      (ranges.any fun range => decide (range.1.toNat ≤ character.toNat) &&
        decide (character.toNat ≤ range.2.toNat)) != negated
  | .literal wanted, character => decide (wanted = character)

/-- The ranges of a set.  A hyphen at either end is a member. -/
def globRanges : PyString -> List (Char × Char)
  | first :: '-' :: last :: rest => (first, last) :: globRanges rest
  | first :: rest => (first, first) :: globRanges rest
  | [] => []

/-- A set from behind its opening bracket, with the number of characters up to its closing one. -/
def globSet (text : PyString) : Option (GlobItem × Nat) :=
  let negated := decide (text.head? = some '!')
  let body := if negated then text.tail else text
  let front := if body.head? = some ']' then [']'] else []
  let rest := body.drop front.length
  let members := rest.takeWhile fun character => character != ']'
  if members.length < rest.length then
    some (.oneOf negated (globRanges (front ++ members)),
      (if negated then 1 else 0) + front.length + members.length + 1)
  else none

/-- The items of a pattern from behind some characters of a set. -/
def globItems : Nat -> PyString -> List GlobItem
  | _, [] => []
  | skipped + 1, _ :: rest => globItems skipped rest
  | 0, character :: rest =>
      if character = '*' then .anything :: globItems 0 rest
      else if character = '?' then .single :: globItems 0 rest
      else if character = '[' then
        match globSet rest with
        | some (set, taken) => set :: globItems taken rest
        | none => .literal character :: globItems 0 rest
      else .literal character :: globItems 0 rest

/-- `fnmatch.translate`. -/
def globTranslate (pattern : PyString) : List GlobItem :=
  globItems 0 pattern

/-- The whole of a text is compared with a pattern. -/
def globMatches : List GlobItem -> PyString -> Bool
  | [], text => text.isEmpty
  | .anything :: items, text => text.tails.any (globMatches items)
  | _ :: _, [] => false
  | item :: items, character :: text => item.admits character && globMatches items text

/-- The texts that a pattern stands for. -/
inductive GlobStands : List GlobItem -> PyString -> Prop where
  | nothing : GlobStands [] []
  | anything {items : List GlobItem} {rest : PyString} (front : PyString) (later : GlobStands items rest) :
      GlobStands (.anything :: items) (front ++ rest)
  | character {item : GlobItem} {items : List GlobItem} {first : Char} {rest : PyString}
      (admitted : item.admits first = true) (later : GlobStands items rest) :
      GlobStands (item :: items) (first :: rest)

/-- The comparison finds exactly the texts that the pattern stands for. -/
theorem globMatches_iff {items : List GlobItem} {text : PyString} :
    globMatches items text = true <-> GlobStands items text := by
  constructor
  · intro found
    induction items generalizing text with
    | nil =>
        rw [List.isEmpty_iff.mp found]
        exact .nothing
    | cons item items inductionHypothesis =>
        cases item with
        | anything =>
            rcases List.any_eq_true.mp found with ⟨rest, suffix, later⟩
            rcases (List.mem_tails rest text).mp suffix with ⟨front, rfl⟩
            exact .anything front (inductionHypothesis later)
        | single =>
            cases text with
            | nil => cases found
            | cons first rest =>
                rcases Bool.and_eq_true_iff.mp found with ⟨admitted, later⟩
                exact .character admitted (inductionHypothesis later)
        | oneOf negated ranges =>
            cases text with
            | nil => cases found
            | cons first rest =>
                rcases Bool.and_eq_true_iff.mp found with ⟨admitted, later⟩
                exact .character admitted (inductionHypothesis later)
        | literal wanted =>
            cases text with
            | nil => cases found
            | cons first rest =>
                rcases Bool.and_eq_true_iff.mp found with ⟨admitted, later⟩
                exact .character admitted (inductionHypothesis later)
  · intro stands
    induction stands with
    | nothing => rfl
    | anything front later inductionHypothesis =>
        exact List.any_eq_true.mpr ⟨_, (List.mem_tails _ _).mpr (List.suffix_append front _), inductionHypothesis⟩
    | @character item items first rest admitted later inductionHypothesis =>
        cases item with
        | anything => cases admitted
        | single => exact Bool.and_eq_true_iff.mpr ⟨admitted, inductionHypothesis⟩
        | oneOf negated ranges => exact Bool.and_eq_true_iff.mpr ⟨admitted, inductionHypothesis⟩
        | literal wanted => exact Bool.and_eq_true_iff.mpr ⟨admitted, inductionHypothesis⟩

/-- A character without a meaning of its own. -/
def GlobPlain (character : Char) : Prop :=
  character ≠ '*' ∧ character ≠ '?' ∧ character ≠ '['

theorem globTranslate_plain {pattern : PyString}
    (plain : forall character, character ∈ pattern -> GlobPlain character) :
    globTranslate pattern = pattern.map GlobItem.literal := by
  induction pattern with
  | nil => rfl
  | cons character rest inductionHypothesis =>
      rcases plain character List.mem_cons_self with ⟨star, mark, bracket⟩
      have later := inductionHypothesis fun other member => plain other (List.mem_cons_of_mem character member)
      rw [globTranslate, globItems, if_neg star, if_neg mark, if_neg bracket]
      exact congrArg (GlobItem.literal character :: ·) later

/-- A pattern of such characters stands for itself alone. -/
theorem globMatches_plain {pattern : PyString} (plain : forall character, character ∈ pattern -> GlobPlain character)
    {text : PyString} : globMatches (globTranslate pattern) text = true <-> text = pattern := by
  rw [globTranslate_plain plain]
  clear plain
  induction pattern generalizing text with
  | nil => exact List.isEmpty_iff
  | cons character rest inductionHypothesis =>
      cases text with
      | nil => exact ⟨fun impossible => (by cases impossible), fun impossible => (by cases impossible)⟩
      | cons first later =>
          rw [List.cons.injEq, ← inductionHypothesis]
          change (decide (character = first) && _) = true <-> _
          rw [Bool.and_eq_true_iff, decide_eq_true_eq, eq_comm]

end Library
end CrashPython

import CrashPython.Library.IntBase

namespace CrashPython
namespace Util

open Library PyString

/-!
# Addresses on the command line

`safe_int` reads a number that a user has typed.  It lets `int` find the base, and if that fails
it takes the text for a hexadecimal number.  Addresses are printed in hexadecimal, with `0x` in front
or without, and such a text can be typed back.

Without the marker this is not always the same number.  A text of decimal digits only is a decimal
number, unless it has more digits than the interpreter reads.
-/

/-- `safe_int`. -/
def safeInt (limit : Nat) (text : PyString) : Option Int :=
  match intAuto limit text with
  | some value => some value
  | none => intHex text

/-- A printed address that `safe_int` takes for what it is. -/
def ReadAsHex (limit number : Nat) : Prop :=
  number < 10 ∨ TooLong limit (digits 16 number) ∨
    Exists fun character : Char => character ∈ digits 16 number ∧ baseDigit 10 character = none

variable {limit number : Nat}

theorem digits_not_space : forall character, character ∈ digits 16 number -> isIntSpace character = false := by
  have hexadecimal : forall digit, digit < 16 -> isIntSpace (Nat.digitChar digit) = false := by
    decide
  intro character member
  rcases mem_digits (by omega) member with ⟨digit, small, same⟩
  rw [same]
  exact hexadecimal digit small

theorem digits_not_sign : forall character, character ∈ digits 16 number ->
    character ≠ '-' ∧ character ≠ '+' ∧ character ≠ '_' := by
  have hexadecimal : forall digit, digit < 16 -> Nat.digitChar digit ≠ '-' ∧ Nat.digitChar digit ≠ '+' ∧
      Nat.digitChar digit ≠ '_' := by
    decide
  intro character member
  rcases mem_digits (by omega) member with ⟨digit, small, same⟩
  rw [same]
  exact hexadecimal digit small

theorem digits_begin (number : Nat) : Exists fun first : Char => (digits 16 number).head? = some first ∧
    first ∈ digits 16 number := by
  cases shape : digits 16 number with
  | nil => exact False.elim (Nat.toDigits_ne_nil shape)
  | cons first text => exact ⟨first, rfl, List.mem_cons_self⟩

/-- Without a sign in front the digits are read as they are. -/
theorem signed_digits (read : PyString -> Option Nat) :
    signedBy read (trimmed (digits 16 number)) =
      (read (digits 16 number)).map fun value : Nat => (value : Int) := by
  rcases digits_begin number with ⟨first, begins, member⟩
  rw [trimmed_of_all digits_not_space]
  exact signedBy_plain begins (digits_not_sign first member).1 (digits_not_sign first member).2.1

/-- As a hexadecimal number the text is right. -/
theorem intHex_digits : intHex (digits 16 number) = some (number : Int) := by
  have bare : behindMarker 16 (digits 16 number) = none := by
    cases number with
    | zero => rfl
    | succ number => exact behindMarker_none (digits_head (by omega) (Nat.succ_pos number))
  rw [intHex, signed_digits, unsignedIn, bare, Option.getD_none, digitsIn_digits (by omega) (by omega),
    Option.map_some]

/-- With base zero it is a decimal number. -/
theorem intAuto_digits (positive : 0 < number) : intAuto limit (digits 16 number) =
    (unsignedDecimal limit (digits 16 number)).map fun value : Nat => (value : Int) := by
  have nonzero := @digits_head 16 number (by omega) positive
  have bare : forall base, (behindMarker base (digits 16 number)).isSome = false := fun base => by
    rw [behindMarker_none nonzero]
    rfl
  rw [intAuto, signed_digits, unsignedAuto, bare, bare, bare, if_neg Bool.false_ne_true,
    if_neg Bool.false_ne_true, if_neg Bool.false_ne_true, if_neg nonzero]

/-- With the marker a printed address is read back. -/
theorem safeInt_marked (limit number : Nat) :
    safeInt limit (['0', 'x'] ++ digits 16 number) = some (number : Int) := by
  have marked : intAuto limit (['0', 'x'] ++ digits 16 number) = some (number : Int) := by
    have visible : forall character, character ∈ ['0', 'x'] ++ digits 16 number ->
        isIntSpace character = false :=
      List.forall_mem_append.mpr
        ⟨List.forall_mem_cons.mpr ⟨rfl, List.forall_mem_singleton.mpr rfl⟩, digits_not_space⟩
    rcases digits_begin number with ⟨first, begins, member⟩
    have behind : behindMarker 16 (['0', 'x'] ++ digits 16 number) = some (digits 16 number) := by
      have digit : (digits 16 number).head? ≠ some '_' := by
        rw [begins]
        exact fun same => (digits_not_sign first member).2.2 (Option.some.inj same)
      change behindMarker 16 ('0' :: 'x' :: digits 16 number) = _
      rw [behindMarker, if_pos ⟨rfl, List.mem_cons_self⟩, if_neg digit]
    rw [intAuto, trimmed_of_all visible, signedBy_plain rfl (by decide) (by decide), unsignedAuto, behind,
      Option.isSome_some, if_pos rfl, unsignedIn, behind, Option.getD_some,
      digitsIn_digits (by omega) (by omega), Option.map_some]
  rw [safeInt, marked]

/-- A printed address is read back if it has the marker in front.  Without the marker it is read back
exactly if it is a single decimal digit, has a letter among its digits or has too many digits for a
decimal number; in all other cases a smaller number is read. -/
theorem safeInt_reads_addresses (limit number : Nat) :
    safeInt limit (['0', 'x'] ++ digits 16 number) = some (number : Int) ∧
      (safeInt limit (digits 16 number) = some (number : Int) <-> ReadAsHex limit number) ∧
      (¬ ReadAsHex limit number -> Exists fun smaller : Nat =>
        safeInt limit (digits 16 number) = some (smaller : Int) ∧ smaller < number) := by
  have good : ReadAsHex limit number -> safeInt limit (digits 16 number) = some (number : Int) := by
    intro readable
    by_cases zero : number = 0
    · rw [zero]
      by_cases long : TooLong limit ['0']
      · exact False.elim (long.1 (Nat.lt_one_iff.mp long.2))
      · have read : unsignedDecimal limit ['0'] = some 0 := if_neg long
        have auto : intAuto limit (digits 16 0) = some 0 := by
          rw [intAuto, signed_digits]
          change ((unsignedDecimal limit ['0']).filter _).map _ = _
          rw [read]
          rfl
        rw [safeInt, auto]
        rfl
    · rw [safeInt, intAuto_digits (Nat.pos_of_ne_zero zero), unsignedDecimal]
      by_cases long : TooLong limit (digits 16 number)
      · rw [if_pos long]
        exact intHex_digits
      · rw [if_neg long]
        rcases readable with small | impossible | ⟨character, member, letter⟩
        · have single : digits 16 number = digits 10 number := by
            rw [digits, digits, Nat.toDigits_of_lt_base (by omega), Nat.toDigits_of_lt_base small]
          rw [single, digitsIn_digits (by omega) (by omega)]
          rfl
        · exact False.elim (long impossible)
        · rw [digitsIn_none member letter (digits_not_sign character member).2.2]
          exact intHex_digits
  have bad : ¬ ReadAsHex limit number -> Exists fun smaller : Nat =>
      safeInt limit (digits 16 number) = some (smaller : Int) ∧ smaller < number := by
    intro unreadable
    rcases not_or.mp unreadable with ⟨large, rest⟩
    rcases not_or.mp rest with ⟨short, plain⟩
    have decimal : forall character, character ∈ digits 16 number -> (baseDigit 10 character).isSome :=
      fun character member => Option.isSome_iff_ne_none.mpr fun letter => plain ⟨character, member, letter⟩
    rcases decimal_of_digits number decimal with ⟨smaller, read, _, below⟩
    refine ⟨smaller, ?_, below (Nat.le_of_not_lt large)⟩
    rw [safeInt, intAuto_digits (by omega), unsignedDecimal, if_neg short, read]
    rfl
  refine ⟨safeInt_marked limit number, ⟨fun read => ?_, good⟩, bad⟩
  by_contra unreadable
  rcases bad unreadable with ⟨smaller, other, below⟩
  have same : (number : Int) = smaller := Option.some.inj (read.symm.trans other)
  omega

end Util
end CrashPython

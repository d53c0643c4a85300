import CrashPython.Library.IntText

namespace CrashPython
namespace Library
namespace PyString

/-!
# Integers in other bases

`int` with a base reads the digits and letters of that base.  A marker such as `0x` may stand in
front of them, with one underscore behind it.  With base zero the marker decides about the base,
and a number without a marker is decimal; it does not begin with a zero, unless it is zero.

The limit for the number of digits is one for decimal numbers only.
-/

/-- The value of a digit or a letter. -/
def letterValue (character : Char) : Option Nat :=
  match digitValue character with
  | some value => some value
  | none =>
      if 97 ≤ character.toNat ∧ character.toNat ≤ 122 then some (character.toNat - 87)
      else if 65 ≤ character.toNat ∧ character.toNat ≤ 90 then some (character.toNat - 55)
      else none

/-- The value of a digit of a base. -/
def baseDigit (base : Nat) (character : Char) : Option Nat :=
  (letterValue character).filter fun value => decide (value < base)

/-- The rest of a number of which `value` was read. -/
def digitsIn (base value : Nat) (digitFollows : Bool) : PyString -> Option Nat
  | [] => if digitFollows then none else some value
  | character :: text =>
      match baseDigit base character with
      | some digit => digitsIn base (base * value + digit) false text
      | none =>
          if character = '_' ∧ digitFollows = false then digitsIn base value true text else none

/-- The letters that mark a number of a base. -/
def markers : Nat -> List Char
  | 16 => ['x', 'X']
  | 8 => ['o', 'O']
  | 2 => ['b', 'B']
  | _ => []

/-- The text behind a marker. -/
def behindMarker (base : Nat) : PyString -> Option PyString
  | zero :: mark :: text =>
      if zero = '0' ∧ mark ∈ markers base then
        some (if text.head? = some '_' then text.tail else text)
      else none
  | _ => none

/-- A number of a base, without a sign. -/
def unsignedIn (base : Nat) (text : PyString) : Option Nat :=
  digitsIn base 0 true ((behindMarker base text).getD text)

/-- A decimal number without a sign. -/
def unsignedDecimal (limit : Nat) (text : PyString) : Option Nat :=
  if TooLong limit text then none else digitsIn 10 0 true text

/-- A number without a sign whose base is to be found. -/
def unsignedAuto (limit : Nat) (text : PyString) : Option Nat :=
  if (behindMarker 16 text).isSome then unsignedIn 16 text
  else if (behindMarker 8 text).isSome then unsignedIn 8 text
  else if (behindMarker 2 text).isSome then unsignedIn 2 text
  else if text.head? = some '0' then (unsignedDecimal limit text).filter fun value => value == 0
  else unsignedDecimal limit text

/-- A number with or without a sign. -/
def signedBy (read : PyString -> Option Nat) : PyString -> Option Int
  | [] => none
  | character :: text =>
      if character = '-' then (read text).map fun value : Nat => -(value : Int)
      else if character = '+' then (read text).map fun value : Nat => (value : Int)
      else (read (character :: text)).map fun value : Nat => (value : Int)

/-- A text without the white space around it. -/
def trimmed (text : PyString) : PyString :=
  (text.dropWhile isIntSpace).rdropWhile isIntSpace

/-- `int(text, 0)`, or nothing for a `ValueError`. -/
def intAuto (limit : Nat) (text : PyString) : Option Int :=
  signedBy (unsignedAuto limit) (trimmed text)

/-- `int(text, 16)`, or nothing for a `ValueError`. -/
def intHex (text : PyString) : Option Int :=
  signedBy (unsignedIn 16) (trimmed text)

/-! ## Reading back what was written -/

variable {base value number limit : Nat} {text rest : PyString} {digitFollows : Bool}

/-- A text may be read in two parts. -/
theorem digitsIn_append (first : digitsIn base value digitFollows text = some number) :
    digitsIn base value digitFollows (text ++ rest) = digitsIn base number false rest := by
  induction text generalizing value digitFollows with
  | nil =>
      rw [digitsIn] at first
      cases digitFollows with
      | true => cases first
      | false =>
          cases first
          rfl
  | cons character text inductionHypothesis =>
      rw [List.cons_append]
      simp only [digitsIn] at first ⊢
      cases found : baseDigit base character with
      | some digit =>
          rw [found] at first
          exact inductionHypothesis first
      | none =>
          rw [found] at first
          by_cases separates : character = '_' ∧ digitFollows = false
          · simp only [if_pos separates] at first ⊢
            exact inductionHypothesis first
          · simp only [if_neg separates] at first
            cases first

/-- A character that is no digit of the base makes the text unreadable. -/
theorem digitsIn_none {character : Char} (member : character ∈ text)
    (foreign : baseDigit base character = none) (other : character ≠ '_') :
    digitsIn base value digitFollows text = none := by
  induction text generalizing value digitFollows with
  | nil => exact False.elim (List.not_mem_nil member)
  | cons first text inductionHypothesis =>
      rw [digitsIn]
      rcases List.mem_cons.mp member with same | later
      · rw [← same, foreign]
        exact if_neg fun separates => other separates.1
      · cases baseDigit base first with
        | some digit => exact inductionHypothesis later
        | none =>
            by_cases separates : first = '_' ∧ digitFollows = false
            · simp only [if_pos separates]
              exact inductionHypothesis later
            · exact if_neg separates

/-- The digits that are written are digits. -/
theorem letterValue_digitChar : forall digit, digit < 16 ->
    letterValue (Nat.digitChar digit) = some digit := by
  decide

theorem baseDigit_digitChar {digit : Nat} (small : digit < base) (bounded : base ≤ 16) :
    baseDigit base (Nat.digitChar digit) = some digit := by
  rw [baseDigit, letterValue_digitChar digit (Nat.lt_of_lt_of_le small bounded), Option.filter_some,
    if_pos (decide_eq_true small)]

theorem digitsIn_digitChar {digit : Nat} (small : digit < base) (bounded : base ≤ 16) :
    digitsIn base value digitFollows [Nat.digitChar digit] = some (base * value + digit) := by
  rw [digitsIn, baseDigit_digitChar small bounded]
  rfl

/-- A number is read back from its digits. -/
theorem digitsIn_digits (large : 1 < base) (bounded : base ≤ 16) (number : Nat) :
    digitsIn base 0 true (digits base number) = some number := by
  induction number using Nat.strongRecOn with
  | ind number inductionHypothesis =>
      rw [digits]
      by_cases small : number < base
      · rw [Nat.toDigits_of_lt_base small, digitsIn_digitChar small bounded, Nat.mul_zero, Nat.zero_add]
      · have enough : base ≤ number := Nat.le_of_not_lt small
        have positive : 0 < number := Nat.lt_of_lt_of_le (Nat.zero_lt_of_lt large) enough
        have front := inductionHypothesis (number / base) (Nat.div_lt_self positive large)
        rw [digits] at front
        rw [Nat.toDigits_of_base_le large enough, digitsIn_append front,
          digitsIn_digitChar (Nat.mod_lt number (Nat.zero_lt_of_lt large)) bounded, Nat.div_add_mod]

/-- What is written of a number are digits. -/
theorem mem_digits (large : 1 < base) {character : Char} (member : character ∈ digits base number) :
    Exists fun digit : Nat => digit < base ∧ character = Nat.digitChar digit := by
  induction number using Nat.strongRecOn with
  | ind number inductionHypothesis =>
      rw [digits] at member
      by_cases small : number < base
      · rw [Nat.toDigits_of_lt_base small] at member
        exact ⟨number, small, List.mem_singleton.mp member⟩
      · have enough : base ≤ number := Nat.le_of_not_lt small
        rw [Nat.toDigits_of_base_le large enough] at member
        rcases List.mem_append.mp member with first | last
        · have positive : 0 < number := Nat.lt_of_lt_of_le (Nat.zero_lt_of_lt large) enough
          exact inductionHypothesis (number / base) (Nat.div_lt_self positive large) first
        · exact ⟨number % base, Nat.mod_lt number (Nat.zero_lt_of_lt large), List.mem_singleton.mp last⟩

/-- Only zero is written with a zero in front. -/
theorem digits_head (large : 1 < base) (positive : 0 < number) :
    (digits base number).head? ≠ some '0' := by
  induction number using Nat.strongRecOn with
  | ind number inductionHypothesis =>
      rw [digits]
      by_cases small : number < base
      · rw [Nat.toDigits_of_lt_base small]
        intro same
        exact Nat.ne_of_gt positive (Nat.digitChar_eq_zero.mp (Option.some.inj same))
      · have enough : base ≤ number := Nat.le_of_not_lt small
        have further := inductionHypothesis (number / base) (Nat.div_lt_self positive large)
          (Nat.div_pos enough (Nat.zero_lt_of_lt large))
        rw [Nat.toDigits_of_base_le large enough, List.head?_append_of_ne_nil _ Nat.toDigits_ne_nil]
        exact further

/-- Hexadecimal digits that are read as decimal ones stand for less. -/
theorem decimal_of_digits (number : Nat)
    (plain : forall character, character ∈ digits 16 number -> (baseDigit 10 character).isSome) :
    Exists fun smaller : Nat => digitsIn 10 0 true (digits 16 number) = some smaller ∧
      smaller ≤ number ∧ (10 ≤ number -> smaller < number) := by
  induction number using Nat.strongRecOn with
  | ind number inductionHypothesis =>
      rw [digits] at plain ⊢
      have decimal : forall digit, digit < 16 -> (baseDigit 10 (Nat.digitChar digit)).isSome -> digit < 10 := by
        decide
      by_cases small : number < 16
      · rw [Nat.toDigits_of_lt_base small] at plain ⊢
        have below := decimal number small (plain _ List.mem_cons_self)
        rw [digitsIn_digitChar below (by omega)]
        exact ⟨number, by rw [Nat.mul_zero, Nat.zero_add], Nat.le_refl number, fun large => by omega⟩
      · have enough : 16 ≤ number := Nat.le_of_not_lt small
        rw [Nat.toDigits_of_base_le (by omega) enough] at plain ⊢
        rcases List.forall_mem_append.mp plain with ⟨front, last⟩
        rcases inductionHypothesis (number / 16) (by omega) front with ⟨smaller, read, below, _⟩
        have digit := decimal (number % 16) (by omega) (last _ List.mem_cons_self)
        rw [digits] at read
        rw [digitsIn_append read, digitsIn_digitChar digit (by omega)]
        exact ⟨10 * smaller + number % 16, rfl, by omega, fun _ => by omega⟩

/-- A text without white space is left as it is. -/
theorem trimmed_of_all (visible : forall character, character ∈ text -> isIntSpace character = false) :
    trimmed text = text := by
  have first : text.dropWhile isIntSpace = text := by
    refine List.dropWhile_eq_self_iff.mpr fun nonempty space => ?_
    rw [visible _ (List.getElem_mem nonempty)] at space
    cases space
  rw [trimmed, first]
  refine List.rdropWhile_eq_self_iff.mpr fun nonempty space => ?_
  rw [visible _ (List.getLast_mem nonempty)] at space
  cases space

/-- A text that does not begin with a sign is read without one. -/
theorem signedBy_plain {read : PyString -> Option Nat} {first : Char} (begins : text.head? = some first)
    (minus : first ≠ '-') (plus : first ≠ '+') :
    signedBy read text = (read text).map fun value : Nat => (value : Int) := by
  cases text with
  | nil => cases begins
  | cons character text =>
      cases begins
      rw [signedBy, if_neg minus, if_neg plus]

/-- A text that does not begin with a zero has no marker. -/
theorem behindMarker_none (nonzero : text.head? ≠ some '0') : behindMarker base text = none := by
  rcases text with _ | ⟨zero, _ | ⟨mark, text⟩⟩
  · rfl
  · rfl
  · exact if_neg fun marked => nonzero (congrArg some marked.1)

end PyString
end Library
end CrashPython

import Mathlib.Data.Int.Bitwise
import Mathlib.Data.List.Induction
import Mathlib.Data.Nat.Bitwise

namespace CrashPython
namespace Library

/-!
Two numbers packed into one word.

The low number takes a given width and the high number the bits above it.  A word of
several fields is packed twice: the pair of the lower fields is the low number of the
whole, or the pair of the upper fields is its high number.  Both readings are the same
word, and a field of no bits needs no case of its own.

A mask of one bit reads that bit, of a natural number as of an integer in two's complement.
-/

/-- The word with `high` above the lowest `width` bits, which hold `low`. -/
def packed (high width low : Nat) : Nat :=
  high <<< width ||| low

/-- Shifting the low field out leaves the high one. -/
theorem packed_shiftRight {high width low : Nat} (fits : low < 2 ^ width) :
    packed high width low >>> width = high := by
  rw [packed, Nat.shiftRight_or_distrib, Nat.shiftLeft_shiftRight,
    Nat.shiftRight_eq_zero low width fits, Nat.or_zero]

/-- The mask of the width keeps the low field. -/
theorem packed_and_mask {high width low : Nat} (fits : low < 2 ^ width) :
    packed high width low &&& (1 <<< width - 1) = low := by
  rw [Nat.one_shiftLeft, Nat.and_two_pow_sub_one_eq_mod, packed, Nat.or_mod_two_pow,
    Nat.shiftLeft_eq, Nat.mul_mod_left, Nat.zero_or, Nat.mod_eq_of_lt fits]

/-- A bit of the low field is a bit of the word. -/
theorem packed_testBit_of_lt {high width low bit : Nat} (below : bit < width) :
    (packed high width low).testBit bit = low.testBit bit := by
  rw [packed, Nat.testBit_or, Nat.testBit_shiftLeft, decide_eq_false (Nat.not_le.mpr below),
    Bool.false_and, Bool.false_or]

/-- Two fields fill the sum of their widths. -/
theorem packed_lt {high upper width low : Nat} (above : high < 2 ^ upper) (fits : low < 2 ^ width) :
    packed high width low < 2 ^ (upper + width) := by
  apply Nat.or_lt_two_pow
  · rw [Nat.shiftLeft_eq, Nat.pow_add]
    exact Nat.mul_lt_mul_of_pos_right above (Nat.two_pow_pos width)
  · exact Nat.lt_of_lt_of_le fits (Nat.pow_le_pow_right Nat.two_pos (Nat.le_add_left width upper))

/-- Three fields are packed from either side. -/
theorem packed_assoc (high upper middle width low : Nat) :
    packed (packed high upper middle) width low =
      packed high (upper + width) (packed middle width low) := by
  rw [packed, packed, packed, packed, Nat.shiftLeft_or_distrib, ← Nat.shiftLeft_add, Nat.or_assoc]

/-- The high part of a word is bounded by the bits above the low one. -/
theorem shiftRight_lt_of_lt {word upper width : Nat} (bounded : word < 2 ^ (upper + width)) :
    word >>> width < 2 ^ upper := by
  rw [Nat.shiftRight_eq_div_pow]
  apply Nat.div_lt_of_lt_mul
  rw [Nat.mul_comm, ← Nat.pow_add]
  exact bounded

/-- Every word is packed from its two parts. -/
theorem packed_parts (word width : Nat) : packed (word >>> width) width (word % 2 ^ width) = word := by
  rw [packed, Nat.shiftLeft_eq, Nat.shiftRight_eq_div_pow, Nat.mul_comm,
    ← Nat.two_pow_add_eq_or_of_lt (Nat.mod_lt word (Nat.two_pow_pos width))]
  exact Nat.div_add_mod word (2 ^ width)

/-! ## Masks of one bit -/

/-- Testing a word against the mask of one bit reads the bit. -/
theorem and_bit_ne_zero (word bit : Nat) : (word &&& 1 <<< bit != 0) = word.testBit bit := by
  rw [Nat.one_shiftLeft, Nat.and_two_pow]
  cases word.testBit bit with
  | false => rw [Bool.toNat_false, Nat.zero_mul, bne_self_eq_false]
  | true =>
      rw [Bool.toNat_true, Nat.one_mul, bne_iff_ne]
      exact Nat.ne_of_gt (Nat.two_pow_pos bit)

theorem ldiff_two_pow (word bit : Nat) :
    Nat.ldiff (2 ^ bit) word = 0 ∨ Nat.ldiff (2 ^ bit) word = 2 ^ bit := by
  cases set : word.testBit bit with
  | true =>
      refine Or.inl (Nat.eq_of_testBit_eq ?_)
      intro other
      rw [Nat.testBit_ldiff, Nat.zero_testBit]
      by_cases same : bit = other
      · rw [← same, set, Bool.not_true, Bool.and_false]
      · rw [Nat.testBit_two_pow_of_ne same, Bool.false_and]
  | false =>
      refine Or.inr (Nat.eq_of_testBit_eq ?_)
      intro other
      rw [Nat.testBit_ldiff]
      by_cases same : bit = other
      · rw [← same, set, Bool.not_false, Bool.and_true]
      · rw [Nat.testBit_two_pow_of_ne same, Bool.false_and]

/-- A mask of one bit is contained in an integer or shares nothing with it. -/
theorem land_two_pow (word : Int) (bit : Nat) :
    Int.land word (2 ^ bit : Nat) = 0 ∨ Int.land word (2 ^ bit : Nat) = (2 ^ bit : Nat) := by
  cases word with
  | ofNat word =>
      change ((word &&& 2 ^ bit : Nat) : Int) = 0 ∨
        ((word &&& 2 ^ bit : Nat) : Int) = (2 ^ bit : Nat)
      rw [Nat.and_two_pow]
      cases word.testBit bit with
      | false => exact Or.inl (by rw [Bool.toNat_false, Nat.zero_mul]; rfl)
      | true => exact Or.inr (by rw [Bool.toNat_true, Nat.one_mul])
  | negSucc word =>
      change ((Nat.ldiff (2 ^ bit) word : Nat) : Int) = 0 ∨
        ((Nat.ldiff (2 ^ bit) word : Nat) : Int) = (2 ^ bit : Nat)
      rcases ldiff_two_pow word bit with unset | set
      · exact Or.inl (by rw [unset]; rfl)
      · exact Or.inr (by rw [set])

/-- Every integer contains the empty mask. -/
theorem land_zero (word : Int) : Int.land word 0 = 0 := by
  cases word with
  | ofNat word => exact congrArg Int.ofNat (Nat.and_zero word)
  | negSucc word =>
      refine congrArg Int.ofNat (Nat.eq_of_testBit_eq ?_)
      intro bit
      rw [Nat.testBit_ldiff, Nat.zero_testBit, Bool.false_and]

/-! ## Masks of many bits -/

/-- The mask of some bits. -/
def maskOf (bits : List Nat) : Nat :=
  bits.foldl (fun mask bit => mask ||| 1 <<< bit) 0

theorem maskOf_concat (bits : List Nat) (bit : Nat) :
    maskOf (bits ++ [bit]) = maskOf bits ||| 1 <<< bit := by
  rw [maskOf, List.foldl_append]
  rfl

/-- The mask has exactly these bits. -/
theorem testBit_maskOf {bits : List Nat} {bit : Nat} : (maskOf bits).testBit bit = true <-> bit ∈ bits := by
  induction bits using List.reverseRecOn with
  | nil => simp only [maskOf, List.foldl_nil, Nat.zero_testBit, Bool.false_eq_true, List.not_mem_nil]
  | append_singleton bits last inductionHypothesis =>
      rw [maskOf_concat, Nat.testBit_or, Bool.or_eq_true, inductionHypothesis, Nat.one_shiftLeft,
        Nat.testBit_two_pow, decide_eq_true_eq, List.mem_append, List.mem_singleton]
      exact or_congr Iff.rfl eq_comm

/-- A word has no bits outside of a mask exactly if all of its bits are in it. -/
theorem ldiff_maskOf {word : Nat} {bits : List Nat} : Nat.ldiff word (maskOf bits) = 0 <->
    forall bit, word.testBit bit = true -> bit ∈ bits := by
  constructor
  · intro nothing bit set
    have shown := congrArg (fun number => number.testBit bit) nothing
    simp only [Nat.testBit_ldiff, set, Bool.true_and, Nat.zero_testBit, Bool.not_eq_eq_eq_not,
      Bool.not_false] at shown
    exact testBit_maskOf.mp shown
  · intro inside
    apply Nat.eq_of_testBit_eq
    intro bit
    rw [Nat.testBit_ldiff, Nat.zero_testBit]
    cases set : word.testBit bit with
    | false => rfl
    | true => rw [testBit_maskOf.mpr (inside bit set)]; rfl

end Library
end CrashPython

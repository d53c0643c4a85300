import CrashPython.Library.PyString

namespace CrashPython
namespace Library
namespace PyString

/-!
# Integers in a text

`int` of Python reads a decimal integer: white space, a sign, and digits with single
underscores between them.  A digit is any decimal digit of Unicode.  Four separators that
`str.isspace` counts as white space are none for `int`.

An interpreter can have a limit for the number of digits, and a text with more digits is
refused.  The limit zero means that there is none.
-/

/-- A character that `int` skips before and after the number. -/
def isIntSpace (character : Char) : Bool :=
  isSpace character && !(28 ≤ character.toNat && character.toNat ≤ 31)

/-- The zeros of the decimal digits of Unicode.  The other digits follow them. -/
def decimalZeros : List Nat :=
  [0x30, 0x660, 0x6f0, 0x7c0, 0x966, 0x9e6, 0xa66, 0xae6, 0xb66, 0xbe6, 0xc66, 0xce6, 0xd66,
    0xde6, 0xe50, 0xed0, 0xf20, 0x1040, 0x1090, 0x17e0, 0x1810, 0x1946, 0x19d0, 0x1a80, 0x1a90,
    0x1b50, 0x1bb0, 0x1c40, 0x1c50, 0xa620, 0xa8d0, 0xa900, 0xa9d0, 0xa9f0, 0xaa50, 0xabf0,
    0xff10, 0x104a0, 0x10d30, 0x11066, 0x110f0, 0x11136, 0x111d0, 0x112f0, 0x11450, 0x114d0,
    0x11650, 0x116c0, 0x11730, 0x118e0, 0x11950, 0x11c50, 0x11d50, 0x11da0, 0x16a60, 0x16ac0,
    0x16b50, 0x1d7ce, 0x1d7d8, 0x1d7e2, 0x1d7ec, 0x1d7f6, 0x1e140, 0x1e2f0, 0x1e950, 0x1fbf0]

/-- The value of a decimal digit. -/
def digitValue (character : Char) : Option Nat :=
  (decimalZeros.find? fun first =>
    decide (first ≤ character.toNat) && decide (character.toNat < first + 10)).map
      fun first => character.toNat - first

/-- The rest of a number of which `value` was read.  A separator stands between two digits,
so it is refused where a digit has to follow. -/
def digitsFrom (value : Nat) (digitFollows : Bool) : PyString -> Option Nat
  | [] => if digitFollows then none else some value
  | character :: text =>
      match digitValue character with
      | some digit => digitsFrom (10 * value + digit) false text
      | none =>
          if character = '_' ∧ digitFollows = false then digitsFrom value true text else none

/-- A number without a sign. -/
def unsigned (text : PyString) : Option Nat :=
  digitsFrom 0 true text

/-- A number with or without a sign. -/
def signed : PyString -> Option Int
  | '-' :: text => (unsigned text).map fun value : Nat => -(value : Int)
  | '+' :: text => (unsigned text).map fun value : Nat => (value : Int)
  | text => (unsigned text).map fun value : Nat => (value : Int)

/-- The integer that is written in a text. -/
def integer (text : PyString) : Option Int :=
  signed ((text.dropWhile isIntSpace).rdropWhile isIntSpace)

/-- The number of digits in a text. -/
def digitCount (text : PyString) : Nat :=
  text.countP fun character => (digitValue character).isSome

/-- A text has more digits than the interpreter reads. -/
def TooLong (limit : Nat) (text : PyString) : Prop :=
  limit ≠ 0 ∧ limit < digitCount text

instance (limit : Nat) (text : PyString) : Decidable (TooLong limit text) :=
  inferInstanceAs (Decidable (limit ≠ 0 ∧ limit < digitCount text))

/-- `int`, or nothing for a `ValueError`. -/
def toInt (limit : Nat) (text : PyString) : Option Int :=
  if TooLong limit text then none else integer text

end PyString
end Library
end CrashPython

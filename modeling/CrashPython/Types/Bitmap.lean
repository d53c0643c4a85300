import CrashPython.Library.Generator
import CrashPython.Library.WordScan
import CrashPython.Types.Page

namespace CrashPython
namespace Types

open Library

/-!
# Bitmaps of `crash/types/bitmap.py`

A bitmap is an array of `unsigned long`, or a pointer to its first word together
with a size in bytes.  `for_each_set_bit` goes through it bit by bit, and the
functions that search for a bit go through it word by word and search in a word
by halving it.  The results of the searches are one more than the index of the
bit, with zero for none.
-/

/-- The types of a gdb value that the check of the argument tells apart. -/
inductive BitmapType where
  | ulongArray (count : Nat)
  | ulongPointer
  | other
deriving DecidableEq, Repr

/-- The size that gdb gives for the type. -/
def BitmapType.sizeof : BitmapType -> Nat
  | .ulongArray count => 8 * count
  | .ulongPointer => 8
  | .other => 0

/-- The exceptions of this module, with the data of their messages. -/
inductive BitmapError where
  | invalidArgument
  | gdb (error : GdbError)
  | indexError (start elements : Nat)
  | valueError (bit size : Nat)
  | assertion
deriving DecidableEq, Repr

/-- A gdb value with the words from its address on. -/
structure Bitmap where
  type : BitmapType
  words : Nat -> Except GdbError Word

namespace Bitmap

variable (bitmap : Bitmap) (sizeInBytes : Option Nat)

/-- `_check_bitmap_type`. -/
def checkType : Except BitmapError Unit :=
  if bitmap.type = .other then .error .invalidArgument else .ok ()

/-- The variable `size_in_bytes` after its default was filled in. -/
def size : Nat :=
  sizeInBytes.getD bitmap.type.sizeof

/-- A word of the bitmap. -/
def word (n : Nat) : Except BitmapError Word :=
  (bitmap.words n).mapError .gdb

/-! ## The generator -/

/-- The inner loop of `for_each_set_bit`, with the rounds that are left. -/
def scanWord : Nat -> Word -> Nat -> List Nat
  | 0, _, _ => []
  | rounds + 1, ulong, bit =>
      (if ulong &&& 1#64 ≠ 0#64 then [bit] else []) ++ scanWord rounds (ulong >>> 1) (bit + 1)

/-- The outer loop of `for_each_set_bit`. -/
def scanFrom (size idx bit : Nat) : Run Nat BitmapError :=
  if size = 0 then ⟨[], .completed⟩
  else
    match bitmap.word idx with
    | .error error => ⟨[], .raised error⟩
    | .ok ulong =>
        if ulong ≠ 0#64 then
          (scanFrom (size - 64) (idx + 1) (bit + min size 64)).after
            (scanWord (min size 64) ulong bit)
        else scanFrom (size - 64) (idx + 1) (bit + 64)
termination_by size

/-- `for_each_set_bit`. -/
def forEachSetBit : Run Nat BitmapError :=
  match bitmap.checkType with
  | .error error => ⟨[], .raised error⟩
  | .ok _ => bitmap.scanFrom (bitmap.size sizeInBytes * 8) 0 0

/-! ## The searches -/

/-- `_find_first_set_bit`. -/
def firstSetBit (val : Word) : Nat :=
  if val = 0#64 then 0
  else (skipLow 1 (skipLow 2 (skipLow 4 (skipLow 8 (skipLow 16 (skipLow 32 (val, 1))))))).2

example : [lowMask 32, lowMask 16, lowMask 8, lowMask 4, lowMask 2, lowMask 1] =
    [0xffffffff#64, 0xffff#64, 0xff#64, 0xf#64, 0x3#64, 0x1#64] := by
  decide

/-- `_find_last_set_bit`. -/
def lastSetBit (val : Word) : Nat :=
  if val = 0#64 then 0
  else (skipHigh 1 (skipHigh 2 (skipHigh 4 (skipHigh 8 (skipHigh 16 (skipHigh 32 (val, 64))))))).2

example : [highMask 32, highMask 16, highMask 8, highMask 4, highMask 2, highMask 1] =
    [0xffffffff00000000#64, 0xffff000000000000#64, 0xff00000000000000#64, 0xf000000000000000#64,
      0xc000000000000000#64, 0x8000000000000000#64] := by
  decide

/-- The variable `elements`. -/
def elements : Nat :=
  bitmap.size sizeInBytes / 8

/-- The word without the bits below the offset. -/
def itemFrom (offset : Nat) (word : Word) : Word :=
  if 0 < offset then word &&& ~~~ lowMask offset else word

/-- The loop of `find_next_set_bit`.  A word that is zero is skipped before the
offset is set back. -/
def findNextFrom (start : Nat) : List Nat -> Nat -> Except BitmapError Nat
  | [], _ => .ok 0
  | n :: rest, offset => do
      let word <- bitmap.word n
      if word = 0#64 then findNextFrom start rest offset
      else
        let v := firstSetBit (itemFrom offset word)
        if 0 < v then
          if start ≤ n * 64 + v then .ok (n * 64 + v) else .error .assertion
        else findNextFrom start rest 0

/-- `find_next_set_bit`. -/
def findNextSetBit (start : Nat) : Except BitmapError Nat := do
  bitmap.checkType
  let elements := bitmap.elements sizeInBytes
  if bitmap.size sizeInBytes * 8 < start then .error (.indexError start elements)
  else
    bitmap.findNextFrom start (List.range' (start / 64) (elements - start / 64)) (start % 64)

/-- `find_first_set_bit`. -/
def findFirstSetBit : Except BitmapError Nat :=
  bitmap.findNextSetBit sizeInBytes 0

/-- The loop of `find_last_set_bit`, with the words that are left. -/
def findLastFrom : Nat -> Except BitmapError Nat
  | 0 => .ok 0
  | n + 1 => do
      let word <- bitmap.word n
      if word = 0#64 then findLastFrom n
      else
        let v := lastSetBit word
        if 0 < v then .ok (n * 64 + v) else findLastFrom n

/-- `find_last_set_bit`. -/
def findLastSetBit : Except BitmapError Nat := do
  bitmap.checkType
  bitmap.findLastFrom (bitmap.elements sizeInBytes)

/-- `test_bit`. -/
def testBit (bit : Nat) : Except BitmapError Bool := do
  bitmap.checkType
  if bitmap.elements sizeInBytes ≤ bit / 64 then
    .error (.valueError bit (bitmap.size sizeInBytes * 8))
  else
    let word <- bitmap.word (bit / 64)
    return word &&& (1#64 <<< (bit % 64)) != 0#64

end Bitmap
end Types
end CrashPython

import CrashPython.Library.BigEndian
import CrashPython.Library.PyString
import CrashPython.Types.Page

namespace CrashPython
namespace Util

open Library CrashPython.Types

/-!
# UUIDs

`decode_uuid` of `crash/util/__init__.py` reads the 16 elements of an array and adds them
up, from the first one on, with a shift by one byte before each.  What it adds is the
element as an integer.  For an array of `uint8_t` this is the byte.  For an array of `char`
it is the value of a signed character, which is negative from the byte 128 on.
-/

/-- The exceptions of the functions that decode a UUID. -/
inductive UuidError where
  | typeError (message : PyString)
  | valueError (message : PyString)
  | gdb (error : GdbError)
deriving DecidableEq, Repr

/-- `uuid.UUID`, which holds an integer of 128 bits. -/
structure UUID where
  int : Nat
  fits : int < 2 ^ 128

namespace UUID

/-- `uuid.UUID(int=u)`. -/
def ofInt (u : Int) : Except UuidError UUID :=
  if range : 0 ≤ u ∧ u < 2 ^ 128 then .ok ⟨u.toNat, by omega⟩
  else .error (.valueError "int is out of range (need a 128-bit value)".toList)

/-- The attribute `bytes`. -/
def bytes (uuid : UUID) : List UInt8 :=
  toBytes 16 uuid.int

end UUID

/-- A value of gdb that may be an array: the code and the size of its type, the size of its
elements, and the elements as integers. -/
structure ArrayValue where
  isArray : Bool
  sizeof : Nat
  elementSizeof : Nat
  element : Nat -> Except GdbError Int

/-- The loop of `decode_uuid`, over some indices. -/
def uuidLoop (value : ArrayValue) (indices : List Nat) (u : Int) : Except GdbError Int :=
  indices.foldlM (fun (u : Int) i => do
    let byte ← value.element i
    return u <<< (8 : Nat) + byte) u

/-- `decode_uuid`. -/
def decodeUuid (value : ArrayValue) : Except UuidError UUID :=
  if value.isArray = false ∨ value.elementSizeof ≠ 1 ∨ value.sizeof ≠ 16 then
    .error (.typeError "value must describe an array of 16 bytes".toList)
  else
    match uuidLoop value (List.range 16) 0 with
    | .error error => .error (.gdb error)
    | .ok u => UUID.ofInt u

/-- `int` of a byte that is of type `uint8_t`, or of type `char` where this is signed. -/
def byteValue (signed : Bool) (byte : UInt8) : Int :=
  if signed then byte.toInt8.toInt else byte.toNat

/-- An array of bytes in memory, with elements that are signed or not. -/
def byteArray (signed : Bool) (bytes : List UInt8) : ArrayValue where
  isArray := true
  sizeof := bytes.length
  elementSizeof := 1
  element := fun i =>
    match bytes[i]? with
    | none => .error .memoryError
    | some byte => .ok (byteValue signed byte)

/-- The bytes of the decoded UUID are those of the array. -/
def DecodesBytes (signed : Bool) (bytes : List UInt8) : Prop :=
  (decodeUuid (byteArray signed bytes)).map UUID.bytes = .ok bytes

/-- A signed character is at most the byte it is stored in, and it is the byte if the
highest bit is clear. -/
theorem byteValue_signed (byte : UInt8) :
    byteValue true byte ≤ byte.toNat ∧ (byteValue true byte = byte.toNat <-> byte.toNat < 128) := by
  have bits : byteValue true byte = byte.toBitVec.toInt := rfl
  have small : byte.toNat < 256 := byte.toNat_lt_size
  have same : byte.toBitVec.toNat = byte.toNat := rfl
  rw [bits, BitVec.toInt_eq_toNat_cond, same]
  split <;> omega

theorem byteValue_le (signed : Bool) (byte : UInt8) : byteValue signed byte ≤ byte.toNat := by
  cases signed with
  | false => exact Int.le_refl _
  | true => exact (byteValue_signed byte).1

/-- The loop adds up the digits of the array. -/
theorem uuidLoop_byteArray (signed : Bool) (bytes : List UInt8) :
    uuidLoop (byteArray signed bytes) (List.range bytes.length) 0 =
      .ok (digitSum (byteValue signed) bytes 0) := by
  have before : forall count, count ≤ bytes.length ->
      uuidLoop (byteArray signed bytes) (List.range count) 0 =
        .ok (digitSum (byteValue signed) (bytes.take count) 0) := by
    intro count
    induction count with
    | zero =>
        intro _
        rfl
    | succ count inductionHypothesis =>
        intro inside
        have read : (byteArray signed bytes).element count = .ok (byteValue signed bytes[count]) := by
          change (match bytes[count]? with | none => _ | some byte => _) = _
          rw [List.getElem?_eq_getElem inside]
        have earlier := inductionHypothesis (Nat.le_of_succ_le inside)
        simp only [uuidLoop] at earlier ⊢
        rw [List.range_succ, List.foldlM_append, earlier, List.take_succ_eq_append_getElem inside,
          digitSum_append]
        change ((do
          let byte ← (byteArray signed bytes).element count
          return digitSum (byteValue signed) (bytes.take count) 0 <<< (8 : Nat) + byte) >>= pure) = _
        rw [read, Int.shiftLeft_eq]
        rfl
  have all := before bytes.length (Nat.le_refl _)
  rwa [List.take_length] at all

/-- The number that `decode_uuid` makes a UUID of, for an array of 16 bytes. -/
theorem decodeUuid_byteArray (signed : Bool) {bytes : List UInt8} (length : bytes.length = 16) :
    decodeUuid (byteArray signed bytes) = UUID.ofInt (digitSum (byteValue signed) bytes 0) := by
  have accepted : ¬ ((byteArray signed bytes).isArray = false ∨
      (byteArray signed bytes).elementSizeof ≠ 1 ∨ (byteArray signed bytes).sizeof ≠ 16) := by
    rintro (impossible | impossible | impossible)
    · cases impossible
    · exact impossible rfl
    · exact impossible length
  have loop := uuidLoop_byteArray signed bytes
  rw [length] at loop
  rw [decodeUuid, if_neg accepted, loop]

/-- The bytes of a UUID are those of the array just if the sum is the number of the array. -/
theorem ofInt_bytes_iff {u : Int} {bytes : List UInt8} (length : bytes.length = 16) :
    (UUID.ofInt u).map UUID.bytes = .ok bytes <-> u = fromBytes bytes := by
  have small := fromBytes_lt bytes
  rw [length] at small
  simp only [UUID.ofInt]
  constructor
  · intro decoded
    split at decoded
    · next range =>
        have same : toBytes 16 u.toNat = bytes := Except.ok.inj decoded
        have number := fromBytes_toBytes 16 u.toNat (by omega)
        rw [same] at number
        omega
    · cases decoded
  · intro same
    have range : 0 ≤ u ∧ u < 2 ^ 128 := by omega
    have number : u.toNat = fromBytes bytes := by omega
    rw [dif_pos range]
    change Except.ok (toBytes 16 u.toNat) = _
    rw [number, ← length, toBytes_fromBytes]

/-- The UUID has the bytes of the array if the elements are unsigned.  If they are signed,
it has them just if no byte has its highest bit set. -/
theorem decodesBytes_iff (signed : Bool) (bytes : Vector UInt8 16) :
    DecodesBytes signed bytes.toList <->
      (signed = false ∨ forall byte, byte ∈ bytes.toList -> byte.toNat < 128) := by
  have length : bytes.toList.length = 16 := bytes.length_toList
  simp only [DecodesBytes]
  rw [decodeUuid_byteArray signed length, ofInt_bytes_iff length, ← digitSum_bytes]
  cases signed with
  | false =>
      constructor
      · intro _
        exact Or.inl rfl
      · intro _
        rfl
  | true =>
      constructor
      · intro same
        refine Or.inr ?_
        intro byte member
        have digits := (digitSum_inj (byteValue_le true) bytes.toList (Int.le_refl 0) same).2
        exact (byteValue_signed byte).2.mp (digits byte member)
      · intro either
        have low := either.resolve_left (by decide)
        simp only [digitSum]
        apply List.foldl_ext
        intro sum byte member
        rw [(byteValue_signed byte).2.mpr (low byte member)]

/-- Sixteen characters, of which the second has its highest bit set.  It borrows one from
the first, and the UUID starts with the bytes 0 and 128. -/
theorem not_decodesBytes_char :
    (decodeUuid (byteArray true (1 :: 128 :: List.replicate 14 0))).map UUID.bytes =
        .ok (0 :: 128 :: List.replicate 14 0) ∧
      ¬ DecodesBytes true (1 :: 128 :: List.replicate 14 0) := by
  have decoded : (decodeUuid (byteArray true (1 :: 128 :: List.replicate 14 0))).map UUID.bytes =
      .ok (0 :: 128 :: List.replicate 14 0) := by
    rw [decodeUuid_byteArray true (by decide), ofInt_bytes_iff (by decide)]
    decide +kernel
  refine ⟨decoded, ?_⟩
  simp only [DecodesBytes]
  rw [decoded]
  decide

end Util
end CrashPython

import Mathlib.Algebra.Group.Nat.Defs
import Mathlib.Data.List.Induction
import Mathlib.Data.Int.Order.Basic

namespace CrashPython
namespace Library

/-!
# Bytes and numbers

A list of bytes is read as a number with the highest byte first.  The same sum can be made
with digits that are not bytes, such as the values of signed characters.  Digits that are
smaller than others make the same sum only if they are the same digits.
-/

/-- The sum of some digits in base 256, added up from the highest digit on. -/
def digitSum {Item : Type} (digit : Item -> Int) (items : List Item) (start : Int) : Int :=
  items.foldl (fun sum item => sum * 256 + digit item) start

/-- The number with these bytes. -/
def fromBytes (bytes : List UInt8) : Nat :=
  bytes.foldl (fun sum byte => sum * 256 + byte.toNat) 0

/-- The lowest bytes of a number, as many as are asked for. -/
def toBytes : Nat -> Nat -> List UInt8
  | 0, _ => []
  | count + 1, number => toBytes count (number / 256) ++ [UInt8.ofNat (number % 256)]

section Digits

variable {Item : Type} {low high : Item -> Int} {first second : Int}

theorem digitSum_append (digit : Item -> Int) (items : List Item) (item : Item) (start : Int) :
    digitSum digit (items ++ [item]) start = digitSum digit items start * 256 + digit item := by
  simp only [digitSum, List.foldl_append, List.foldl_cons, List.foldl_nil]

/-- Digits that are below others and still make the same sum are the same digits. -/
theorem digitSum_inj (below : forall item, low item ≤ high item) (items : List Item)
    (start : first ≤ second) (same : digitSum low items first = digitSum high items second) :
    first = second ∧ forall item, item ∈ items -> low item = high item := by
  induction items generalizing first second with
  | nil => exact ⟨same, fun _ member => False.elim (List.not_mem_nil member)⟩
  | cons item items inductionHypothesis =>
      have here := below item
      have next : first * 256 + low item ≤ second * 256 + high item := by omega
      rcases inductionHypothesis next same with ⟨sums, rest⟩
      change first * 256 + low item = second * 256 + high item at sums
      refine ⟨by omega, ?_⟩
      intro other member
      rcases List.mem_cons.mp member with same | later
      · rw [same]
        omega
      · exact rest other later

end Digits

theorem fromBytes_append (bytes : List UInt8) (byte : UInt8) :
    fromBytes (bytes ++ [byte]) = fromBytes bytes * 256 + byte.toNat := by
  simp only [fromBytes, List.foldl_append, List.foldl_cons, List.foldl_nil]

theorem fromBytes_lt (bytes : List UInt8) : fromBytes bytes < 256 ^ bytes.length := by
  induction bytes using List.reverseRecOn with
  | nil => decide
  | append_singleton bytes byte inductionHypothesis =>
      have small : byte.toNat < 256 := byte.toNat_lt_size
      rw [fromBytes_append, List.length_append, List.length_singleton, Nat.pow_succ]
      omega

/-- The sum of the bytes themselves is the number. -/
theorem digitSum_bytes (bytes : List UInt8) :
    digitSum (fun byte : UInt8 => (byte.toNat : Int)) bytes 0 = fromBytes bytes := by
  induction bytes using List.reverseRecOn with
  | nil => rfl
  | append_singleton bytes byte inductionHypothesis =>
      rw [digitSum_append, inductionHypothesis, fromBytes_append, Int.natCast_add, Int.natCast_mul]
      rfl

theorem toBytes_fromBytes (bytes : List UInt8) : toBytes bytes.length (fromBytes bytes) = bytes := by
  induction bytes using List.reverseRecOn with
  | nil => rfl
  | append_singleton bytes byte inductionHypothesis =>
      have small : byte.toNat < 256 := byte.toNat_lt_size
      have front : (fromBytes bytes * 256 + byte.toNat) / 256 = fromBytes bytes := by omega
      have last : (fromBytes bytes * 256 + byte.toNat) % 256 = byte.toNat := by omega
      rw [List.length_append, List.length_singleton, toBytes, fromBytes_append, front, last,
        inductionHypothesis, UInt8.ofNat_toNat]

theorem fromBytes_toBytes (count number : Nat) (small : number < 256 ^ count) :
    fromBytes (toBytes count number) = number := by
  induction count generalizing number with
  | zero =>
      have zero : number = 0 := Nat.lt_one_iff.mp small
      rw [zero]
      rfl
  | succ count inductionHypothesis =>
      have front : number / 256 < 256 ^ count := by
        rw [Nat.pow_succ] at small
        exact Nat.div_lt_of_lt_mul (by rwa [Nat.mul_comm])
      have last : (UInt8.ofNat (number % 256)).toNat = number % 256 :=
        UInt8.toNat_ofNat_of_lt' (Nat.mod_lt _ (by decide))
      rw [toBytes, fromBytes_append, inductionHypothesis _ front, last]
      omega

end Library
end CrashPython

import CrashPython.Types.BitmapScan
import Mathlib.Data.List.Perm.Subperm

namespace CrashPython
namespace Types

open Library

/-!
# The processors of `crash/types/cpu.py`

`TypesCPUClass` keeps the numbers of the online and of the possible processors.
Each of the two lists is filled in by a callback, from the bitmap of a mask, and
is in ascending order.  A list that was not filled in is empty, and so is the list
of an empty mask; the functions for the highest number do not tell these apart.
-/

/-- The attributes of the class that the iterators use. -/
structure TypesCPUClass where
  cpusOnline : List Nat := []
  cpusPossible : List Nat := []
deriving DecidableEq, Repr

/-- `DelayedAttributeError`, with its attribute `name`. -/
structure DelayedAttribute where
  name : String
deriving DecidableEq, Repr

namespace TypesCPUClass

/-- `list(for_each_set_bit(bits))`. -/
def maskBits (bits : Bitmap) : Except BitmapError (List Nat) :=
  match (bits.forEachSetBit none).ending with
  | .completed => .ok (bits.forEachSetBit none).events
  | .raised error => .error error

/-- `setup_online_mask`. -/
def setupOnlineMask (cls : TypesCPUClass) (bits : Bitmap) : Except BitmapError TypesCPUClass := do
  let cpusOnline <- maskBits bits
  return { cls with cpusOnline := cpusOnline }

/-- `setup_possible_mask`. -/
def setupPossibleMask (cls : TypesCPUClass) (bits : Bitmap) : Except BitmapError TypesCPUClass := do
  let cpusPossible <- maskBits bits
  return { cls with cpusPossible := cpusPossible }

/-- `highest_online_cpu_nr`. -/
def highestOnlineCpuNr (cls : TypesCPUClass) : Except DelayedAttribute Nat :=
  match cls.cpusOnline.getLast? with
  | none => .error ⟨"cpus_online"⟩
  | some cpu => .ok cpu

/-- `highest_possible_cpu_nr`. -/
def highestPossibleCpuNr (cls : TypesCPUClass) : Except DelayedAttribute Nat :=
  match cls.cpusPossible.getLast? with
  | none => .error ⟨"cpus_possible"⟩
  | some cpu => .ok cpu

end TypesCPUClass

namespace Bitmap

variable {bitmap : Bitmap}

/-- A scan that runs to its end has read every word. -/
theorem scanFrom_readable {size idx bit : Nat}
    (ended : (bitmap.scanFrom size idx bit).ending = .completed) {n : Nat} (later : idx ≤ n)
    (inside : n * 64 < idx * 64 + size) :
    Exists fun word : Word => bitmap.words n = .ok word := by
  induction size using Nat.strong_induction_on generalizing idx bit with
  | _ size inductionHypothesis =>
      rw [scanFrom] at ended
      by_cases empty : size = 0
      · omega
      · rw [if_neg empty] at ended
        cases read : bitmap.words idx with
        | error error =>
            simp only [Bitmap.word] at ended
            rw [read] at ended
            cases ended
        | ok ulong =>
            rw [word_eq read] at ended
            by_cases here : n = idx
            · exact ⟨ulong, here ▸ read⟩
            · have rest : Exists fun next : Nat =>
                  (bitmap.scanFrom (size - 64) (idx + 1) next).ending = .completed := by
                by_cases nonzero : ulong ≠ 0#64
                · simp only [if_pos nonzero] at ended
                  exact ⟨_, ended⟩
                · simp only [if_neg nonzero] at ended
                  exact ⟨_, ended⟩
              rcases rest with ⟨next, ended⟩
              exact inductionHypothesis (size - 64) (by omega) ended (by omega) (by omega)

end Bitmap

namespace TypesCPUClass

/-- Whether the processor is in the mask. -/
def InMask (bits : Bitmap) (cpu : Nat) : Prop :=
  cpu < bits.size none * 8 ∧ bits.isSet cpu = true

/-- No number is missing below that of a processor in the mask. -/
def Gapless (bits : Bitmap) : Prop :=
  forall cpu lower, InMask bits cpu -> lower < cpu -> InMask bits lower

/-- A mask that can be read gives its set bits. -/
theorem maskBits_eq {bits : Bitmap} {cpus : List Nat} (read : maskBits bits = .ok cpus) :
    cpus = bits.setBits (bits.size none * 8) := by
  simp only [maskBits] at read
  cases ended : (bits.forEachSetBit none).ending with
  | raised error =>
      rw [ended] at read
      cases read
  | completed =>
      rw [ended] at read
      have accepted : bits.type ≠ .other := by
        intro other
        simp only [Bitmap.forEachSetBit, Bitmap.checkType] at ended
        rw [if_pos other] at ended
        cases ended
      have readable : bits.Readable ((bits.size none + 7) / 8) := by
        intro n inside
        have scan := ended
        simp only [Bitmap.forEachSetBit, Bitmap.checkType] at scan
        rw [if_neg accepted] at scan
        exact Bitmap.scanFrom_readable scan (Nat.zero_le n) (by omega)
      rw [Bitmap.forEachSetBit_eq accepted readable] at read
      exact (Except.ok.inj read).symm

/-- The numbers are those of the mask. -/
theorem mem_maskBits {bits : Bitmap} {cpus : List Nat} (read : maskBits bits = .ok cpus) (cpu : Nat) :
    cpu ∈ cpus <-> InMask bits cpu := by
  rw [maskBits_eq read, Bitmap.mem_setBits]
  rfl

/-- The numbers are in ascending order. -/
theorem maskBits_sorted {bits : Bitmap} {cpus : List Nat} (read : maskBits bits = .ok cpus) :
    cpus.Pairwise (· < ·) := by
  rw [maskBits_eq read]
  exact Bitmap.setBits_sorted _

/-- The list of the online processors that the callback fills in. -/
theorem setupOnlineMask_ok {cls cpus : TypesCPUClass} {bits : Bitmap}
    (done : cls.setupOnlineMask bits = .ok cpus) : maskBits bits = .ok cpus.cpusOnline := by
  simp only [setupOnlineMask] at done
  cases read : maskBits bits with
  | error error =>
      rw [read] at done
      cases done
  | ok online =>
      rw [read] at done
      cases done
      rfl

/-- The numbers are places in a list with one place for each of them exactly if no
number is missing. -/
theorem gapless_iff {bits : Bitmap} {cpus : List Nat} (read : maskBits bits = .ok cpus) :
    Gapless bits <-> forall cpu, cpu ∈ cpus -> cpu < cpus.length := by
  have distinct : cpus.Nodup := (maskBits_sorted read).imp Nat.ne_of_lt
  constructor
  · intro gapless cpu member
    have below : List.range (cpu + 1) ⊆ cpus := by
      intro lower inside
      rw [List.mem_range, Nat.lt_succ_iff] at inside
      rcases Nat.lt_or_eq_of_le inside with before | rfl
      · rw [mem_maskBits read] at member ⊢
        exact gapless cpu lower member before
      · exact member
    have length := (List.subperm_of_subset List.nodup_range below).length_le
    rw [List.length_range] at length
    exact length
  · intro places cpu lower member before
    rw [← mem_maskBits read] at member ⊢
    have inside : cpus ⊆ List.range cpus.length :=
      fun other within => List.mem_range.mpr (places other within)
    have all := (List.subperm_of_subset distinct inside).perm_of_length_le (by rw [List.length_range])
    exact all.mem_iff.mpr (List.mem_range.mpr (before.trans (places cpu member)))

end TypesCPUClass

/-- A mask of one word. -/
def oneWordMask (word : Word) : Bitmap :=
  ⟨.ulongArray 1, fun _ => .ok word⟩

theorem maskBits_oneWordMask (word : Word) :
    TypesCPUClass.maskBits (oneWordMask word) = .ok ((oneWordMask word).setBits 64) := by
  have scan : (oneWordMask word).forEachSetBit none =
      ⟨(oneWordMask word).setBits 64, .completed⟩ :=
    Bitmap.forEachSetBit_eq BitmapType.noConfusion fun _ _ => ⟨word, rfl⟩
  simp only [TypesCPUClass.maskBits]
  rw [scan]

end Types
end CrashPython

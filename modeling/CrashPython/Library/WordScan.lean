import Mathlib.Data.Nat.Bitwise
import Mathlib.Data.Nat.Find

namespace CrashPython
namespace Library

/-!
The lowest and the highest set bit of a machine word.

A binary search looks at half of the bits that are left.  If they are all zero it
shifts the word past them and counts them.  The searched bit of the word then moves
along with the count, and the number of places it can be at is halved.
-/

/-- A machine word of 64 bits. -/
abbrev Word : Type :=
  BitVec 64

/-- The set bit with the least index. -/
structure LowestBit (word : Word) (index : Nat) : Prop where
  set : word.getLsbD index = true
  below : forall other, other < index -> word.getLsbD other = false

/-- The set bit with the greatest index. -/
structure HighestBit (word : Word) (index : Nat) : Prop where
  set : word.getLsbD index = true
  above : forall other, index < other -> word.getLsbD other = false

theorem index_lt_of_set {word : Word} {index : Nat} (set : word.getLsbD index = true) :
    index < 64 := by
  by_contra far
  rw [BitVec.getLsbD_of_ge word index (Nat.le_of_not_lt far)] at set
  cases set

theorem exists_set_of_ne_zero {word : Word} (nonzero : word ≠ 0#64) :
    Exists fun index : Nat => word.getLsbD index = true := by
  by_contra none
  apply nonzero
  apply BitVec.eq_of_getLsbD_eq
  intro index _
  rw [BitVec.getLsbD_zero]
  exact Bool.eq_false_iff.mpr fun set => none ⟨index, set⟩

/-- Every word but zero has a lowest set bit. -/
theorem exists_lowestBit {word : Word} (nonzero : word ≠ 0#64) :
    Exists fun index : Nat => LowestBit word index := by
  have found := exists_set_of_ne_zero nonzero
  refine ⟨Nat.find found, Nat.find_spec found, ?_⟩
  intro other below
  exact Bool.eq_false_iff.mpr (Nat.find_min found below)

/-- Every word but zero has a highest set bit. -/
theorem exists_highestBit {word : Word} (nonzero : word ≠ 0#64) :
    Exists fun index : Nat => HighestBit word index := by
  rcases exists_set_of_ne_zero nonzero with ⟨found, set⟩
  have bound : forall index, word.getLsbD index = true -> index ≤ 64 :=
    fun index here => Nat.le_of_lt (index_lt_of_set here)
  have greatest : word.getLsbD (Nat.findGreatest (fun index => word.getLsbD index = true) 64) = true :=
    @Nat.findGreatest_spec found (fun index => word.getLsbD index = true) _ 64 (bound found set) set
  refine ⟨_, greatest, ?_⟩
  intro other above
  apply Bool.eq_false_iff.mpr
  intro here
  exact Nat.findGreatest_is_greatest above (bound other here) here

theorem LowestBit.unique {word : Word} {first second : Nat} (one : LowestBit word first)
    (other : LowestBit word second) : first = second := by
  rcases Nat.lt_trichotomy first second with before | same | after
  · exact False.elim (Bool.false_ne_true ((other.below first before).symm.trans one.set))
  · exact same
  · exact False.elim (Bool.false_ne_true ((one.below second after).symm.trans other.set))

/-! ## The search for the lowest bit -/

/-- The low bits up to a width. -/
def lowMask (width : Nat) : Word :=
  BitVec.ofNat 64 (2 ^ width - 1)

theorem getLsbD_lowMask (width index : Nat) :
    (lowMask width).getLsbD index = (decide (index < 64) && decide (index < width)) := by
  simp only [lowMask]
  rw [BitVec.getLsbD_ofNat, Nat.testBit_two_pow_sub_one]

theorem and_lowMask_eq_zero {word : Word} {width : Nat} :
    word &&& lowMask width = 0#64 <-> forall index, index < width -> word.getLsbD index = false := by
  constructor
  · intro none index below
    have bit := congrArg (fun value => BitVec.getLsbD value index) none
    simp only [BitVec.getLsbD_and, getLsbD_lowMask, BitVec.getLsbD_zero] at bit
    by_cases inside : index < 64
    · simpa [inside, below] using bit
    · exact BitVec.getLsbD_of_ge word index (Nat.le_of_not_lt inside)
  · intro none
    apply BitVec.eq_of_getLsbD_eq
    intro index _
    rw [BitVec.getLsbD_and, getLsbD_lowMask, BitVec.getLsbD_zero]
    by_cases below : index < width
    · rw [none index below, Bool.false_and]
    · simp [below]

/-- One step of the search: skip the low bits if they are all zero. -/
def skipLow (width : Nat) (search : Word × Nat) : Word × Nat :=
  if search.1 &&& lowMask width = 0#64 then (search.1 >>> width, search.2 + width) else search

/-- The lowest bit of the word is the one that is left, and it is among the given
number of places.  The count starts at one. -/
structure SearchesLow (word : Word) (places : Nat) (search : Word × Nat) : Prop where
  counted : 1 ≤ search.2
  lowest : Exists fun index : Nat => LowestBit search.1 index ∧ index < places ∧
    LowestBit word (index + search.2 - 1)

/-- A step halves the number of places. -/
theorem SearchesLow.skip {word : Word} {width : Nat} {search : Word × Nat}
    (searches : SearchesLow word (width + width) search) :
    SearchesLow word width (skipLow width search) := by
  rcases searches.lowest with ⟨index, lowest, places, original⟩
  have counted := searches.counted
  simp only [skipLow]
  by_cases none : search.1 &&& lowMask width = 0#64
  · rw [if_pos none]
    have zeros := and_lowMask_eq_zero.mp none
    have far : width ≤ index := by
      by_contra near
      exact Bool.false_ne_true ((zeros index (Nat.lt_of_not_le near)).symm.trans lowest.set)
    refine ⟨Nat.le_add_right_of_le counted, index - width, ⟨?_, ?_⟩, by omega, ?_⟩
    · rw [BitVec.getLsbD_ushiftRight, Nat.add_sub_cancel' far]
      exact lowest.set
    · intro other below
      rw [BitVec.getLsbD_ushiftRight]
      exact lowest.below (width + other) (by omega)
    · have same : index - width + (search.2 + width) - 1 = index + search.2 - 1 := by omega
      rw [same]
      exact original
  · rw [if_neg none]
    refine ⟨counted, index, lowest, ?_, original⟩
    by_contra far
    apply none
    apply and_lowMask_eq_zero.mpr
    intro other below
    exact lowest.below other (by omega)

theorem SearchesLow.start {word : Word} (nonzero : word ≠ 0#64) : SearchesLow word 64 (word, 1) := by
  rcases exists_lowestBit nonzero with ⟨index, lowest⟩
  exact ⟨Nat.le_refl 1, index, lowest, index_lt_of_set lowest.set, lowest⟩

/-- With one place left the count is the index and one. -/
theorem SearchesLow.found {word : Word} {search : Word × Nat} (searches : SearchesLow word 1 search) :
    Exists fun index : Nat => LowestBit word index ∧ search.2 = index + 1 := by
  rcases searches.lowest with ⟨index, _, places, original⟩
  have counted := searches.counted
  exact ⟨index + search.2 - 1, original, by omega⟩

/-! ## The search for the highest bit -/

/-- The high bits of a width. -/
def highMask (width : Nat) : Word :=
  lowMask width <<< (64 - width)

theorem getLsbD_highMask {width : Nat} (narrow : width ≤ 64) (index : Nat) :
    (highMask width).getLsbD index = (decide (index < 64) && decide (64 - width ≤ index)) := by
  simp only [highMask]
  rw [BitVec.getLsbD_shiftLeft, getLsbD_lowMask]
  by_cases inside : index < 64
  · by_cases high : 64 - width ≤ index
    · have near : index - (64 - width) < width := by omega
      have bounded : index - (64 - width) < 64 := by omega
      simp [inside, high, near, bounded]
    · have low : index < 64 - width := Nat.lt_of_not_le high
      simp [high, low]
  · simp [inside]

theorem and_highMask_eq_zero {word : Word} {width : Nat} (narrow : width ≤ 64) :
    word &&& highMask width = 0#64 <-> forall index, 64 - width ≤ index -> word.getLsbD index = false := by
  constructor
  · intro none index above
    have bit := congrArg (fun value => BitVec.getLsbD value index) none
    simp only [BitVec.getLsbD_and, getLsbD_highMask narrow, BitVec.getLsbD_zero] at bit
    by_cases inside : index < 64
    · simpa [inside, above] using bit
    · exact BitVec.getLsbD_of_ge word index (Nat.le_of_not_lt inside)
  · intro none
    apply BitVec.eq_of_getLsbD_eq
    intro index _
    rw [BitVec.getLsbD_and, getLsbD_highMask narrow, BitVec.getLsbD_zero]
    by_cases above : 64 - width ≤ index
    · rw [none index above, Bool.false_and]
    · simp [above]

/-- One step of the search: skip the high bits if they are all zero. -/
def skipHigh (width : Nat) (search : Word × Nat) : Word × Nat :=
  if search.1 &&& highMask width = 0#64 then (search.1 <<< width, search.2 - width) else search

/-- The highest bit of the word is the one that is left, and it is among the given
number of highest places.  The count is at most the size of a word. -/
structure SearchesHigh (word : Word) (places : Nat) (search : Word × Nat) : Prop where
  bounded : search.2 ≤ 64
  highest : Exists fun index : Nat => HighestBit search.1 index ∧ 64 - places ≤ index ∧
    64 ≤ index + search.2 ∧ HighestBit word (index + search.2 - 64)

theorem SearchesHigh.skip {word : Word} {width : Nat} {search : Word × Nat} (narrow : width ≤ 64)
    (searches : SearchesHigh word (width + width) search) :
    SearchesHigh word width (skipHigh width search) := by
  rcases searches.highest with ⟨index, highest, places, counted, original⟩
  have inside := index_lt_of_set highest.set
  have bounded := searches.bounded
  simp only [skipHigh]
  by_cases none : search.1 &&& highMask width = 0#64
  · rw [if_pos none]
    have zeros := (and_highMask_eq_zero narrow).mp none
    have low : index + width < 64 := by
      by_contra high
      exact Bool.false_ne_true ((zeros index (by omega)).symm.trans highest.set)
    refine ⟨(Nat.sub_le _ _).trans bounded, index + width, ⟨?_, ?_⟩, by omega, by omega, ?_⟩
    · rw [BitVec.getLsbD_shiftLeft, Nat.add_sub_cancel, highest.set]
      simp [low]
    · intro other above
      rw [BitVec.getLsbD_shiftLeft, highest.above (other - width) (by omega), Bool.and_false]
    · have same : index + width + (search.2 - width) - 64 = index + search.2 - 64 := by omega
      rw [same]
      exact original
  · rw [if_neg none]
    refine ⟨bounded, index, highest, ?_, counted, original⟩
    by_contra low
    apply none
    apply (and_highMask_eq_zero narrow).mpr
    intro other above
    exact highest.above other (by omega)

theorem SearchesHigh.start {word : Word} (nonzero : word ≠ 0#64) :
    SearchesHigh word 64 (word, 64) := by
  rcases exists_highestBit nonzero with ⟨index, highest⟩
  exact ⟨Nat.le_refl 64, index, highest, Nat.zero_le _, Nat.le_add_left _ _, highest⟩

/-- With one place left the count is the index and one. -/
theorem SearchesHigh.found {word : Word} {search : Word × Nat}
    (searches : SearchesHigh word 1 search) :
    Exists fun index : Nat => HighestBit word index ∧ search.2 = index + 1 := by
  rcases searches.highest with ⟨index, highest, places, counted, original⟩
  have inside := index_lt_of_set highest.set
  exact ⟨index + search.2 - 64, original, by omega⟩

end Library
end CrashPython

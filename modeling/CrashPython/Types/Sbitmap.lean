import CrashPython.Library.Generator
import CrashPython.Library.WordScan

namespace CrashPython
namespace Types

open Library

/-!
# Scalable bitmaps of `crash/types/sbitmap.py`

A scalable bitmap spreads its bits over words.  Each word has a number of its own of bits
that are in use, and bits that were cleared may still be set in the word if they are marked
in a second one.  A later word starts where a shift puts it, whatever the number of bits of
the words before it is.
-/

/-- A `struct sbitmap_word`.  Kernels differ in whether it has a member `cleared`. -/
structure SbitmapWord where
  word : Word
  cleared : Option Word
  depth : Nat
deriving DecidableEq, Repr

/-- A `struct sbitmap`, with the words behind its pointer `map`. -/
structure Sbitmap where
  depth : Nat
  mapNr : Nat
  shift : Nat
  map : Nat -> SbitmapWord

/-- A mask that gdb has no integer type for. -/
inductive SbitmapError where
  | overflowError
deriving DecidableEq, Repr

/-- `word`, less the bits that are marked as cleared. -/
def SbitmapWord.uncleared (entry : SbitmapWord) : Word :=
  match entry.cleared with
  | none => entry.word
  | some cleared => entry.word &&& ~~~cleared

namespace Sbitmap

/-- One round of the inner loop.  The mask `1 << j` is an integer of Python, which gdb can
convert up to 64 bits. -/
def yieldBit (word : Word) (offset j : Nat) : Run Nat SbitmapError :=
  if 64 ≤ j then ⟨[], .raised .overflowError⟩
  else if word.getLsbD j then ⟨[offset + j], .completed⟩
  else ⟨[], .completed⟩

/-- How many bits of a word the inner loop looks at. -/
def bits (sbitmap : Sbitmap) (i : Nat) : Nat :=
  min (sbitmap.map i).depth (sbitmap.depth - i <<< sbitmap.shift)

/-- One round of the outer loop. -/
def forEachSetIn (sbitmap : Sbitmap) (i : Nat) : Run Nat SbitmapError :=
  let word := (sbitmap.map i).uncleared
  let offset := i <<< sbitmap.shift
  Run.chain ((List.range (sbitmap.bits i)).map (yieldBit word offset))

/-- `sbitmap_for_each_set`. -/
def forEachSet (sbitmap : Sbitmap) : Run Nat SbitmapError :=
  Run.chain ((List.range sbitmap.mapNr).map sbitmap.forEachSetIn)

variable (sbitmap : Sbitmap)

/-- The bit of a tag is in use and set, and it is not marked as cleared. -/
structure IsSet (tag : Nat) : Prop where
  below : tag < sbitmap.depth
  word : tag / 2 ^ sbitmap.shift < sbitmap.mapNr
  used : tag % 2 ^ sbitmap.shift < (sbitmap.map (tag / 2 ^ sbitmap.shift)).depth
  set : (sbitmap.map (tag / 2 ^ sbitmap.shift)).word.getLsbD (tag % 2 ^ sbitmap.shift) = true
  kept : forall cleared, (sbitmap.map (tag / 2 ^ sbitmap.shift)).cleared = some cleared ->
    cleared.getLsbD (tag % 2 ^ sbitmap.shift) = false

/-- No word reaches into the part of the next one. -/
def WordsApart : Prop :=
  forall i, i < sbitmap.mapNr -> (sbitmap.map i).depth ≤ 2 ^ sbitmap.shift

/-- The words have all bits that the loops look at. -/
def BitsExist : Prop :=
  forall i, i < sbitmap.mapNr -> sbitmap.bits i ≤ 64

variable {sbitmap}

theorem getLsbD_uncleared (entry : SbitmapWord) {j : Nat} :
    entry.uncleared.getLsbD j = true <-> entry.word.getLsbD j = true ∧
      forall cleared, entry.cleared = some cleared -> cleared.getLsbD j = false := by
  simp only [SbitmapWord.uncleared]
  cases entry.cleared with
  | none => simp
  | some cleared =>
      rw [BitVec.getLsbD_and, BitVec.getLsbD_not]
      constructor
      · intro both
        rcases Bool.and_eq_true_iff.mp both with ⟨set, kept⟩
        refine ⟨set, ?_⟩
        rintro other same
        cases same
        simpa using (Bool.and_eq_true_iff.mp kept).2
      · rintro ⟨set, kept⟩
        rw [set, kept cleared rfl, Bool.true_and, Bool.not_false, Bool.and_true, decide_eq_true_eq]
        exact index_lt_of_set set

theorem yieldBit_eq (word : Word) (offset : Nat) {j : Nat} (small : j < 64) :
    yieldBit word offset j =
      ⟨if word.getLsbD j then [offset + j] else [], .completed⟩ := by
  simp only [yieldBit]
  rw [if_neg (Nat.not_le_of_lt small)]
  cases word.getLsbD j <;> rfl

/-- The tags of one word. -/
def tagsIn (sbitmap : Sbitmap) (i : Nat) : List Nat :=
  (List.range (sbitmap.bits i)).flatMap fun j =>
    if (sbitmap.map i).uncleared.getLsbD j then [i <<< sbitmap.shift + j] else []

theorem forEachSetIn_eq {i : Nat} (exist : sbitmap.bits i ≤ 64) :
    sbitmap.forEachSetIn i = ⟨sbitmap.tagsIn i, .completed⟩ := by
  have rounds : forall j, j ∈ List.range (sbitmap.bits i) -> j < 64 := by
    intro j member
    exact Nat.lt_of_lt_of_le (List.mem_range.mp member) exist
  simp only [forEachSetIn]
  rw [Run.chain_of_completed]
  · simp only [tagsIn]
    rw [List.flatMap_map]
    congr 1
    apply List.flatMap_congr
    intro j member
    rw [yieldBit_eq _ _ (rounds j member)]
  · intro run member
    rcases List.mem_map.mp member with ⟨j, inRange, same⟩
    rw [← same, yieldBit_eq _ _ (rounds j inRange)]

theorem mem_tagsIn {i tag : Nat} : tag ∈ sbitmap.tagsIn i <->
    Exists fun j : Nat => j < (sbitmap.map i).depth ∧ tag = i * 2 ^ sbitmap.shift + j ∧
      tag < sbitmap.depth ∧ (sbitmap.map i).uncleared.getLsbD j = true := by
  simp only [tagsIn, bits]
  rw [Nat.shiftLeft_eq]
  constructor
  · intro member
    rcases List.mem_flatMap.mp member with ⟨j, inRange, here⟩
    have below := List.mem_range.mp inRange
    rcases List.mem_ite_nil_right.mp here with ⟨set, single⟩
    have same := List.mem_singleton.mp single
    exact ⟨j, by omega, same, by omega, set⟩
  · rintro ⟨j, below, same, inside, set⟩
    refine List.mem_flatMap.mpr ⟨j, List.mem_range.mpr (by omega), ?_⟩
    exact List.mem_ite_nil_right.mpr ⟨set, List.mem_singleton.mpr same⟩

/-- The tags of one word are in the part of the bitmap that is the word's own. -/
theorem mem_tagsIn_iff {i tag : Nat} (fits : (sbitmap.map i).depth ≤ 2 ^ sbitmap.shift)
    (word : i < sbitmap.mapNr) :
    tag ∈ sbitmap.tagsIn i <-> tag / 2 ^ sbitmap.shift = i ∧ sbitmap.IsSet tag := by
  have positive : 0 < 2 ^ sbitmap.shift := Nat.two_pow_pos _
  constructor
  · intro member
    rcases mem_tagsIn.mp member with ⟨j, used, same, below, uncleared⟩
    have place : tag / 2 ^ sbitmap.shift = i ∧ tag % 2 ^ sbitmap.shift = j := by
      rw [same, Nat.mul_comm, Nat.mul_add_div positive, Nat.mul_add_mod,
        Nat.div_eq_of_lt (Nat.lt_of_lt_of_le used fits),
        Nat.mod_eq_of_lt (Nat.lt_of_lt_of_le used fits)]
      exact ⟨rfl, rfl⟩
    rcases (getLsbD_uncleared _).mp uncleared with ⟨set, kept⟩
    refine ⟨place.1, below, ?_, ?_, ?_, ?_⟩
    · rw [place.1]
      exact word
    · rw [place.1, place.2]
      exact used
    · rw [place.1, place.2]
      exact set
    · rw [place.1, place.2]
      exact kept
  · rintro ⟨same, set⟩
    subst same
    refine mem_tagsIn.mpr ⟨tag % 2 ^ sbitmap.shift, set.used, ?_, set.below,
      (getLsbD_uncleared _).mpr ⟨set.set, set.kept⟩⟩
    rw [Nat.mul_comm]
    exact (Nat.div_add_mod tag _).symm

theorem tagsIn_sorted (i : Nat) : (sbitmap.tagsIn i).Pairwise (· < ·) := by
  simp only [tagsIn]
  apply List.pairwise_flatMap.mpr
  constructor
  · intro j _
    cases (sbitmap.map i).uncleared.getLsbD j with
    | false => exact List.Pairwise.nil
    | true => exact List.pairwise_singleton _ _
  · apply List.Pairwise.imp ?_ List.pairwise_lt_range
    intro first second before tag here other there
    have lower := List.mem_singleton.mp (List.mem_ite_nil_right.mp here).2
    have upper := List.mem_singleton.mp (List.mem_ite_nil_right.mp there).2
    rw [lower, upper]
    exact Nat.add_lt_add_left before _

/-- The tags come in ascending order, and they are those whose bits are set. -/
theorem forEachSet_eq (apart : sbitmap.WordsApart) (exist : sbitmap.BitsExist) :
    Exists fun tags : List Nat => sbitmap.forEachSet = ⟨tags, .completed⟩ ∧
      tags.Pairwise (· < ·) ∧ forall tag, tag ∈ tags <-> sbitmap.IsSet tag := by
  have words : forall i, i ∈ List.range sbitmap.mapNr ->
      sbitmap.forEachSetIn i = ⟨sbitmap.tagsIn i, .completed⟩ := fun i member =>
    forEachSetIn_eq (exist i (List.mem_range.mp member))
  have mem_iff : forall {i tag}, i < sbitmap.mapNr ->
      (tag ∈ sbitmap.tagsIn i <-> tag / 2 ^ sbitmap.shift = i ∧ sbitmap.IsSet tag) :=
    fun word => mem_tagsIn_iff (apart _ word) word
  refine ⟨(List.range sbitmap.mapNr).flatMap sbitmap.tagsIn, ?_, ?_, ?_⟩
  · simp only [forEachSet]
    rw [Run.chain_of_completed, List.flatMap_map]
    · congr 1
      apply List.flatMap_congr
      intro i member
      rw [words i member]
    · intro run member
      rcases List.mem_map.mp member with ⟨i, inRange, same⟩
      rw [← same, words i inRange]
  · apply List.pairwise_flatMap.mpr
    refine ⟨fun i _ => tagsIn_sorted i, ?_⟩
    apply List.Pairwise.imp_of_mem ?_ List.pairwise_lt_range
    intro first second inFirst inSecond before tag here other there
    have lower := ((mem_iff (List.mem_range.mp inFirst)).mp here).1
    have upper := ((mem_iff (List.mem_range.mp inSecond)).mp there).1
    by_contra notBefore
    have order := Nat.div_le_div_right (c := 2 ^ sbitmap.shift) (Nat.le_of_not_lt notBefore)
    rw [lower, upper] at order
    exact Nat.not_le_of_lt before order
  · intro tag
    constructor
    · intro member
      rcases List.mem_flatMap.mp member with ⟨i, inRange, here⟩
      exact ((mem_iff (List.mem_range.mp inRange)).mp here).2
    · intro set
      refine List.mem_flatMap.mpr ⟨tag / 2 ^ sbitmap.shift, List.mem_range.mpr set.word, ?_⟩
      exact (mem_iff set.word).mpr ⟨rfl, set⟩

theorem forEachSet_lists (apart : sbitmap.WordsApart) (exist : sbitmap.BitsExist) :
    Lists id sbitmap.IsSet sbitmap.forEachSet := by
  rcases forEachSet_eq apart exist with ⟨tags, run, sorted, exactly⟩
  rw [run]
  refine ⟨rfl, ?_, exactly⟩
  rw [List.map_id]
  exact sorted.imp Nat.ne_of_lt

/-- A search that completes has looked only at bits that the words have. -/
theorem bitsExist_of_completed (completed : sbitmap.forEachSet.ending = .completed) :
    sbitmap.BitsExist := by
  intro i word
  by_contra many
  have inner := (Run.chain_completed completed
    (List.mem_map_of_mem (List.mem_range.mpr word))).1
  have round := (Run.chain_completed inner
    (List.mem_map_of_mem (List.mem_range.mpr (Nat.lt_of_not_le many)))).1
  simp only [yieldBit] at round
  rw [if_pos (Nat.le_refl 64)] at round
  cases round

end Sbitmap

end Types
end CrashPython

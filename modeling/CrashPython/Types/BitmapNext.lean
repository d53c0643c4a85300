import CrashPython.Types.BitmapScan

namespace CrashPython
namespace Types

open Library

/-!
# Searches that start within a word

`find_next_set_bit` and `find_next_zero_bit` go through the words from that of the start
on, and leave out the bits of the first word below the start.  The number of these bits is
set back only when a word was searched in vain, and a word without the wanted bits is not
searched at all.  So the number goes along to a later word, where the bits that are left out
come after the start.
-/

namespace Bitmap

variable (bitmap : Bitmap) (sizeInBytes : Option Nat)

/-- The words that `find_next_zero_bit` searches, `~bitmap[n]`. -/
def complement : Bitmap :=
  { bitmap with words := fun n => (bitmap.words n).map fun word => ~~~word }

/-- `find_next_zero_bit`.  Its loop is that of `find_next_set_bit` on other words. -/
def findNextZeroBit (start : Nat) : Except BitmapError Nat := do
  bitmap.checkType
  let elements := bitmap.elements sizeInBytes
  if bitmap.size sizeInBytes * 8 < start then .error (.indexError start elements)
  else
    bitmap.complement.findNextFrom start (List.range' (start / 64) (elements - start / 64))
      (start % 64)

/-- `find_first_zero_bit`. -/
def findFirstZeroBit : Except BitmapError Nat :=
  bitmap.findNextZeroBit sizeInBytes 0

/-- The result of a search for the first place from the start on where something holds: one
more than the place, or zero if there is none below the bound. -/
inductive NextPlace (holds : Nat -> Prop) (start bound : Nat) : Nat -> Prop where
  | missing (none : forall bit, start ≤ bit -> bit < bound -> ¬ holds bit) :
      NextPlace holds start bound 0
  | found {bit : Nat} (above : start ≤ bit) (below : bit < bound) (here : holds bit)
      (first : forall other, start ≤ other -> other < bit -> ¬ holds other) :
      NextPlace holds start bound (bit + 1)

/-- The number of bits that are left out does no harm: there are none to be left out, or the
word of the start is searched, or the first word after it that is searched does not have
them. -/
def OffsetHarmless (count start : Nat) : Prop :=
  start % 64 = 0 ∨ bitmap.words (start / 64) ≠ .ok 0#64 ∨
    forall n, start / 64 < n -> n < count ->
      (forall k, start / 64 ≤ k -> k < n -> bitmap.words k = .ok 0#64) ->
        forall place, place < start % 64 -> bitmap.isSet (n * 64 + place) = false

variable {bitmap sizeInBytes}

theorem nextPlace_iff {set : Nat -> Bool} {start bound result : Nat} :
    NextPlace (fun bit => set bit = true) start bound result <->
      result = resultOf ((List.range' start (bound - start)).find? set) := by
  constructor
  · intro next
    cases next with
    | missing unset =>
        have absent : (List.range' start (bound - start)).find? set = none := by
          apply List.find?_range'_eq_none.mpr
          intro bit above below
          simpa using unset bit above (by omega)
        rw [absent]
        rfl
    | @found bit above below here first =>
        have present : (List.range' start (bound - start)).find? set = some bit := by
          refine List.find?_range'_eq_some.mpr ⟨here, List.mem_range'_1.mpr ⟨above, by omega⟩, ?_⟩
          intro other atLeast before
          have unset := first other atLeast before
          simpa using unset
        rw [present]
        rfl
  · intro same
    rw [same]
    cases search : (List.range' start (bound - start)).find? set with
    | none =>
        refine .missing fun bit above below => ?_
        have unset := List.find?_range'_eq_none.mp search bit above (by omega)
        simpa using unset
    | some bit =>
        rcases List.find?_range'_eq_some.mp search with ⟨here, member, before⟩
        have place := List.mem_range'_1.mp member
        refine .found place.1 (by omega) here fun other atLeast early => ?_
        have unset := before other atLeast early
        simpa using unset

theorem resultOf_injective {first second : Option Nat} :
    resultOf first = resultOf second <-> first = second := by
  constructor
  · intro same
    cases first with
    | none => exact (resultOf_eq_zero.mp same.symm).symm
    | some bit =>
        cases second with
        | none => cases same
        | some other => exact congrArg some (Nat.succ.inj same)
  · intro same
    rw [same]

/-- Words that are zero are passed over. -/
theorem findNextFrom_skip {n skipped count start offset : Nat}
    (zero : forall k, n ≤ k -> k < n + skipped -> bitmap.words k = .ok 0#64) :
    bitmap.findNextFrom start (List.range' n (skipped + count)) offset =
      bitmap.findNextFrom start (List.range' (n + skipped) count) offset := by
  induction skipped generalizing n with
  | zero => rw [Nat.zero_add, Nat.add_zero]
  | succ skipped inductionHypothesis =>
      have here := zero n (Nat.le_refl n) (by omega)
      have later := @inductionHypothesis (n + 1) fun k above below => zero k (by omega) (by omega)
      rw [Nat.succ_add, List.range'_succ, findNextFrom, word_eq here]
      change bitmap.findNextFrom start (List.range' (n + 1) (skipped + count)) offset = _
      rw [later]
      congr 2
      omega

/-- There is no set bit in words that are zero. -/
theorem isSet_of_zero {bit : Nat} (zero : bitmap.words (bit / 64) = .ok 0#64) :
    bitmap.isSet bit = false := by
  simp only [isSet]
  rw [zero]
  exact BitVec.getLsbD_zero

/-- The search finds the next set bit from the offset of the first word that is not zero. -/
theorem findNextFrom_carried {n skipped count start offset : Nat}
    (readable : forall word, n ≤ word -> word < n + (skipped + count) ->
      Exists fun value : Word => bitmap.words word = .ok value)
    (zero : forall k, n ≤ k -> k < n + skipped -> bitmap.words k = .ok 0#64)
    (inside : offset < 64) (before : start ≤ n * 64 + offset)
    (plain : count = 0 ∨ bitmap.words (n + skipped) ≠ .ok 0#64) :
    bitmap.findNextFrom start (List.range' n (skipped + count)) offset =
      .ok (resultOf ((List.range' ((n + skipped) * 64 + offset) (count * 64 - offset)).find?
        bitmap.isSet)) := by
  rw [findNextFrom_skip zero]
  rcases plain with none | nonzero
  · rw [none, Nat.zero_mul, Nat.zero_sub]
    rfl
  · apply findNextFrom_eq _ inside (by omega) (.inr nonzero)
    intro word above below
    exact readable word (by omega) (by omega)

/-- The number of words from the first one on that are zero. -/
theorem exists_skipped (bitmap : Bitmap) (n count : Nat) :
    Exists fun skipped : Nat => skipped ≤ count ∧
      (forall k, n ≤ k -> k < n + skipped -> bitmap.words k = .ok 0#64) ∧
      (skipped = count ∨ bitmap.words (n + skipped) ≠ .ok 0#64) := by
  induction count generalizing n with
  | zero => exact ⟨0, Nat.le_refl 0, fun k above below => by omega, .inl rfl⟩
  | succ count inductionHypothesis =>
      by_cases zero : bitmap.words n = .ok 0#64
      · rcases inductionHypothesis (n + 1) with ⟨skipped, bounded, zeros, ended⟩
        refine ⟨skipped + 1, Nat.succ_le_succ bounded, ?_, ?_⟩
        · intro k above below
          rcases Nat.eq_or_lt_of_le above with rfl | later
          · exact zero
          · exact zeros k later (by omega)
        · have place : n + (skipped + 1) = n + 1 + skipped := by omega
          rw [place]
          rcases ended with all | nonzero
          · exact .inl (by omega)
          · exact .inr nonzero
      · exact ⟨0, Nat.zero_le _, fun k above below => by omega, .inr zero⟩

/-- A part of a search that finds nothing can be left out, and no other part. -/
theorem find?_drop_iff {first second start : Nat} (set : Nat -> Bool) :
    resultOf ((List.range' (start + first) second).find? set) =
        resultOf ((List.range' start (first + second)).find? set) <->
      forall bit, start ≤ bit -> bit < start + first -> set bit = false := by
  rw [resultOf_injective, ← List.range'_append_1, List.find?_append]
  cases search : (List.range' start first).find? set with
  | none =>
      have unset := List.find?_range'_eq_none.mp search
      refine iff_of_true rfl fun bit above below => ?_
      simpa using unset bit above below
  | some bit =>
      rcases List.find?_range'_eq_some.mp search with ⟨here, member, _⟩
      have place := List.mem_range'_1.mp member
      apply iff_of_false
      · intro same
        rw [Option.some_or] at same
        have later := (List.find?_range'_eq_some.mp same).2.1
        have beyond := (List.mem_range'_1.mp later).1
        omega
      · intro unset
        rw [unset bit place.1 place.2] at here
        cases here

/-- From within a word that is zero, only the words after it can be harmed by the offset. -/
theorem offsetHarmless_iff_later {count start : Nat} (unaligned : ¬ start % 64 = 0)
    (zero : bitmap.words (start / 64) = .ok 0#64) :
    bitmap.OffsetHarmless count start <->
      forall n, start / 64 < n -> n < count ->
        (forall k, start / 64 ≤ k -> k < n -> bitmap.words k = .ok 0#64) ->
          forall place, place < start % 64 -> bitmap.isSet (n * 64 + place) = false := by
  constructor
  · rintro (aligned | nonzero | later)
    · exact False.elim (unaligned aligned)
    · exact False.elim (nonzero zero)
    · exact later
  · exact fun later => .inr (.inr later)

/-- Behind words that are zero, `find_next_set_bit` searches from the offset in the first word
that is not, and no earlier bit. -/
theorem findNextSetBit_carried {count start skipped rest : Nat} (accepted : bitmap.type ≠ .other)
    (elements : bitmap.elements sizeInBytes = count) (readable : bitmap.Readable count)
    (within : start ≤ count * 64) (first : start / 64 < count)
    (zeros : forall k, start / 64 ≤ k -> k < start / 64 + skipped -> bitmap.words k = .ok 0#64)
    (ended : skipped = count - start / 64 ∨ bitmap.words (start / 64 + skipped) ≠ .ok 0#64)
    (total : count - start / 64 = skipped + rest) :
    bitmap.findNextSetBit sizeInBytes start = .ok (resultOf
      ((List.range' ((start / 64 + skipped) * 64 + start % 64)
        (rest * 64 - start % 64)).find? bitmap.isSet)) := by
  have inside : ¬ bitmap.size sizeInBytes * 8 < start := by
    simp only [Bitmap.elements] at elements
    omega
  simp only [findNextSetBit, checkType]
  rw [if_neg accepted]
  change (if bitmap.size sizeInBytes * 8 < start then _ else _) = _
  rw [if_neg inside, elements, total]
  apply findNextFrom_carried
  · intro word above below
    exact readable word (by omega)
  · exact zeros
  · exact Nat.mod_lt _ (by decide)
  · omega
  · rcases ended with all | nonzero
    · exact .inl (by omega)
    · exact .inr nonzero

/-- When `find_next_set_bit` finds the next set bit of the whole words. -/
theorem findNextSetBit_iff {count start : Nat} (accepted : bitmap.type ≠ .other)
    (elements : bitmap.elements sizeInBytes = count) (readable : bitmap.Readable count)
    (within : start ≤ count * 64) :
    bitmap.findNextSetBit sizeInBytes start =
        .ok (resultOf ((List.range' start (count * 64 - start)).find? bitmap.isSet)) <->
      bitmap.OffsetHarmless count start := by
  by_cases plain : start % 64 = 0 ∨ bitmap.words (start / 64) ≠ .ok 0#64
  · have words : bitmap.Readable (bitmap.elements sizeInBytes) := by
      rw [elements]
      exact readable
    have right := findNextSetBit_eq accepted words (elements ▸ within) plain
    rw [elements] at right
    refine iff_of_true right ?_
    rcases plain with aligned | nonzero
    · exact .inl aligned
    · exact .inr (.inl nonzero)
  · rw [not_or, not_not] at plain
    have first : start / 64 < count := by omega
    rcases exists_skipped bitmap (start / 64) (count - start / 64) with
      ⟨skipped, bounded, zeros, ended⟩
    have unsetBefore : forall bit, start / 64 ≤ bit / 64 -> bit / 64 < start / 64 + skipped ->
        bitmap.isSet bit = false :=
      fun bit above below => isSet_of_zero (zeros (bit / 64) above below)
    rcases Nat.exists_eq_add_of_le bounded with ⟨rest, total⟩
    rw [findNextSetBit_carried accepted elements readable within first zeros ended total,
      offsetHarmless_iff_later plain.1 plain.2, Except.ok.injEq]
    by_cases all : skipped = count - start / 64
    · have none : (List.range' start (count * 64 - start)).find? bitmap.isSet = none := by
        apply List.find?_range'_eq_none.mpr
        intro bit above below
        rw [unsetBefore bit (by omega) (by omega)]
        rfl
      have empty : rest * 64 - start % 64 = 0 := by omega
      rw [none, empty]
      refine iff_of_true rfl fun n after below _ place low => ?_
      exact unsetBefore _ (by omega) (by omega)
    · have nonzero := ended.resolve_left all
      have onward : (start / 64 + skipped) * 64 + start % 64 = start + skipped * 64 := by omega
      have whole : count * 64 - start =
          skipped * 64 + (rest * 64 - start % 64) := by omega
      rw [onward, whole, find?_drop_iff]
      constructor
      · intro unset n after below earlier place low
        have reached : n ≤ start / 64 + skipped := by
          by_contra beyond
          exact nonzero (earlier _ (by omega) (by omega))
        exact unset _ (by omega) (by omega)
      · intro later bit above below
        by_cases early : bit / 64 < start / 64 + skipped
        · exact unsetBefore bit (by omega) early
        · have place : bit = (start / 64 + skipped) * 64 + bit % 64 := by omega
          rw [place]
          apply later _ _ (by omega) zeros _ (by omega)
          rcases Nat.eq_zero_or_pos skipped with none | some
          · rw [none, Nat.add_zero] at nonzero
            exact False.elim (nonzero plain.2)
          · omega

/-- The search for a bit that is not set is the other search in other words. -/
theorem findNextZeroBit_eq (start : Nat) :
    bitmap.findNextZeroBit sizeInBytes start = bitmap.complement.findNextSetBit sizeInBytes start :=
  rfl

/-- A bit is set in one of the two if its word can be read. -/
theorem isSet_complement {count bit : Nat} (readable : bitmap.Readable count)
    (below : bit < count * 64) : bitmap.complement.isSet bit = !bitmap.isSet bit := by
  rcases readable (bit / 64) (by omega) with ⟨word, read⟩
  have other : bitmap.complement.words (bit / 64) = .ok (~~~word) := by
    change (bitmap.words (bit / 64)).map _ = _
    rw [read]
    rfl
  have inside : bit % 64 < 64 := Nat.mod_lt _ (by decide)
  simp only [isSet]
  rw [read, other]
  simp [inside]

theorem readable_complement {count : Nat} (readable : bitmap.Readable count) :
    bitmap.complement.Readable count := by
  intro n below
  rcases readable n below with ⟨word, read⟩
  refine ⟨~~~word, ?_⟩
  change (bitmap.words n).map _ = _
  rw [read]
  rfl

theorem nextPlace_congr {first second : Nat -> Prop} {start bound result : Nat}
    (same : forall bit, bit < bound -> (first bit <-> second bit))
    (next : NextPlace first start bound result) : NextPlace second start bound result := by
  cases next with
  | missing absent =>
      exact .missing fun bit above below here => absent bit above below ((same bit below).mpr here)
  | found above below here least =>
      refine .found above below ((same _ below).mp here) fun other atLeast before there => ?_
      exact least other atLeast before ((same other (Nat.lt_trans before below)).mpr there)

/-- A search is right if it finds what is there. -/
theorem search_iff {search : Except BitmapError Nat} {set : Nat -> Bool} {start bound : Nat} :
    (Exists fun result : Nat => search = .ok result ∧
      NextPlace (fun bit => set bit = true) start bound result) <->
      search = .ok (resultOf ((List.range' start (bound - start)).find? set)) := by
  constructor
  · rintro ⟨result, found, next⟩
    rw [found, nextPlace_iff.mp next]
  · intro found
    exact ⟨_, found, nextPlace_iff.mpr rfl⟩

/-- When `find_next_zero_bit` is right. -/
theorem findNextZeroBit_iff {count start : Nat} (accepted : bitmap.type ≠ .other)
    (elements : bitmap.elements sizeInBytes = count) (readable : bitmap.Readable count)
    (within : start ≤ count * 64) :
    (Exists fun result : Nat => bitmap.findNextZeroBit sizeInBytes start = .ok result ∧
      NextPlace (fun bit => bitmap.isSet bit = false) start (count * 64) result) <->
      bitmap.complement.OffsetHarmless count start := by
  have other := @findNextSetBit_iff bitmap.complement sizeInBytes count start accepted elements
    (readable_complement readable) within
  rw [← other, ← search_iff, findNextZeroBit_eq]
  have same : forall bit, bit < count * 64 ->
      (bitmap.complement.isSet bit = true <-> bitmap.isSet bit = false) := by
    intro bit below
    rw [isSet_complement readable below, Bool.not_eq_true']
  constructor
  · rintro ⟨result, found, next⟩
    exact ⟨result, found, nextPlace_congr (fun bit below => (same bit below).symm) next⟩
  · rintro ⟨result, found, next⟩
    exact ⟨result, found, nextPlace_congr same next⟩

/-- `find_first_zero_bit` leaves out nothing. -/
theorem findFirstZeroBit_right {count : Nat} (accepted : bitmap.type ≠ .other)
    (elements : bitmap.elements sizeInBytes = count) (readable : bitmap.Readable count) :
    Exists fun result : Nat => bitmap.findFirstZeroBit sizeInBytes = .ok result ∧
      NextPlace (fun bit => bitmap.isSet bit = false) 0 (count * 64) result :=
  (findNextZeroBit_iff accepted elements readable (Nat.zero_le _)).mpr (.inl rfl)

/-- When the two searches are right, for a bitmap of whole words and any start in it. -/
theorem findNext_iff (bitmap : Bitmap) (sizeInBytes : Option Nat) (count start : Nat)
    (accepted : bitmap.type ≠ .other) (whole : bitmap.size sizeInBytes = 8 * count)
    (readable : bitmap.Readable count) (within : start ≤ 8 * bitmap.size sizeInBytes) :
    ((Exists fun result : Nat => bitmap.findNextSetBit sizeInBytes start = .ok result ∧
        NextPlace (fun bit => bitmap.isSet bit = true) start (8 * bitmap.size sizeInBytes) result) <->
      bitmap.OffsetHarmless count start) ∧
    ((Exists fun result : Nat => bitmap.findNextZeroBit sizeInBytes start = .ok result ∧
        NextPlace (fun bit => bitmap.isSet bit = false) start (8 * bitmap.size sizeInBytes) result) <->
      bitmap.complement.OffsetHarmless count start) := by
  have elements : bitmap.elements sizeInBytes = count := by
    simp only [Bitmap.elements]
    rw [whole]
    exact Nat.mul_div_cancel_left count (by decide)
  have bound : 8 * bitmap.size sizeInBytes = count * 64 := by omega
  rw [bound] at within ⊢
  constructor
  · rw [search_iff]
    exact findNextSetBit_iff accepted elements readable within
  · exact findNextZeroBit_iff accepted elements readable within

/-- A word that is zero, and one with its lowest bit set. -/
def lateBitmap : Bitmap :=
  ⟨.ulongArray 2, fun n => .ok (if n = 0 then 0#64 else 1#64)⟩

theorem findNext_iff_late :
    ((Exists fun result : Nat => lateBitmap.findNextSetBit none 0 = .ok result ∧
        NextPlace (fun bit => lateBitmap.isSet bit = true) 0 (8 * lateBitmap.size none) result) <->
      lateBitmap.OffsetHarmless 2 0) ∧
    ((Exists fun result : Nat => lateBitmap.findNextZeroBit none 0 = .ok result ∧
        NextPlace (fun bit => lateBitmap.isSet bit = false) 0 (8 * lateBitmap.size none) result) <->
      lateBitmap.complement.OffsetHarmless 2 0) :=
  findNext_iff lateBitmap none 2 0 (by decide) rfl (fun n _ => ⟨_, rfl⟩) (by decide)

/-- From bit 1 on, the set bit of the second word is not found; and neither is the bit that
is not set in the complement. -/
theorem findNext_misses_late :
    lateBitmap.findNextSetBit none 1 = .ok 0 ∧ lateBitmap.isSet 64 = true ∧
      lateBitmap.complement.findNextZeroBit none 1 = .ok 0 ∧ lateBitmap.complement.isSet 64 = false ∧
      ¬ NextPlace (fun bit => lateBitmap.isSet bit = true) 1 128 0 ∧
      ¬ NextPlace (fun bit => lateBitmap.complement.isSet bit = false) 1 128 0 := by
  refine ⟨by decide, by decide, by decide, by decide, fun next => ?_, fun next => ?_⟩
  · cases next with
    | missing absent => exact absent 64 (by decide) (by decide) (by decide)
  · cases next with
    | missing absent => exact absent 64 (by decide) (by decide) (by decide)

end Bitmap
end Types
end CrashPython

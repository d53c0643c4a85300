import CrashPython.Types.Bitmap

namespace CrashPython
namespace Types

open Library

/-!
# The scans of a bitmap agree

Every scan is compared with the list of the set bits in ascending order: the
generator yields it, the searches give its first and its last element, and a chain
of searches goes through it.  The searches look at whole words only.
-/

namespace Bitmap

variable {bitmap : Bitmap}

/-- Whether a bit is set, as far as its word can be read. -/
def isSet (bitmap : Bitmap) (bit : Nat) : Bool :=
  match bitmap.words (bit / 64) with
  | .ok word => word.getLsbD (bit % 64)
  | .error _ => false

/-- The set bits below a bound, in ascending order. -/
def setBits (bitmap : Bitmap) (bound : Nat) : List Nat :=
  (List.range bound).filter bitmap.isSet

/-- The words below a bound can be read. -/
def Readable (bitmap : Bitmap) (count : Nat) : Prop :=
  forall n, n < count -> Exists fun word : Word => bitmap.words n = .ok word

theorem mem_setBits {bound bit : Nat} :
    bit ∈ bitmap.setBits bound <-> bit < bound ∧ bitmap.isSet bit = true := by
  simp only [setBits]
  rw [List.mem_filter, List.mem_range]

theorem setBits_sorted (bound : Nat) : (bitmap.setBits bound).Pairwise (· < ·) :=
  List.Pairwise.filter _ List.pairwise_lt_range

/-- A bit of a word that was read. -/
theorem isSet_word {n : Nat} {word : Word} (read : bitmap.words n = .ok word) {offset : Nat}
    (inside : offset < 64) : bitmap.isSet (n * 64 + offset) = word.getLsbD offset := by
  have quotient : (n * 64 + offset) / 64 = n := by omega
  have remainder : (n * 64 + offset) % 64 = offset := by omega
  simp only [isSet]
  rw [quotient, read, remainder]

/-! ## The generator -/

theorem and_one_ne_zero (word : Word) : word &&& 1#64 ≠ 0#64 <-> word.getLsbD 0 = true := by
  have mask : lowMask 1 = 1#64 := by decide
  rw [← mask, ne_eq, and_lowMask_eq_zero, not_forall]
  constructor
  · rintro ⟨index, set⟩
    rw [Classical.not_imp, Nat.lt_one_iff, Bool.not_eq_false] at set
    exact set.1 ▸ set.2
  · intro set
    refine ⟨0, ?_⟩
    rw [Classical.not_imp, Bool.not_eq_false]
    exact ⟨Nat.one_pos, set⟩

/-- The inner loop yields the set bits of its word. -/
theorem scanWord_eq (rounds bit : Nat) (ulong : Word) :
    scanWord rounds ulong bit =
      (List.range' bit rounds).filter fun index => ulong.getLsbD (index - bit) := by
  induction rounds generalizing ulong bit with
  | zero => rfl
  | succ rounds inductionHypothesis =>
      have later : (List.range' (bit + 1) rounds).filter
          (fun index => (ulong >>> 1).getLsbD (index - (bit + 1))) =
          (List.range' (bit + 1) rounds).filter fun index => ulong.getLsbD (index - bit) := by
        apply List.filter_congr
        intro index member
        have above := (List.mem_range'_1.mp member).1
        rw [BitVec.getLsbD_ushiftRight]
        congr 1
        omega
      rw [scanWord, inductionHypothesis, later, List.range'_succ, List.filter_cons, Nat.sub_self]
      by_cases set : ulong.getLsbD 0 = true
      · rw [if_pos ((and_one_ne_zero ulong).mpr set), if_pos set]
        rfl
      · rw [if_neg fun nonzero => set ((and_one_ne_zero ulong).mp nonzero), if_neg set]
        rfl

/-- One word of the bitmap. -/
theorem scanWord_isSet {n rounds : Nat} {word : Word} (read : bitmap.words n = .ok word)
    (inside : rounds ≤ 64) :
    scanWord rounds word (n * 64) = (List.range' (n * 64) rounds).filter bitmap.isSet := by
  rw [scanWord_eq]
  apply List.filter_congr
  intro index member
  have place := List.mem_range'_1.mp member
  have split : index = n * 64 + (index - n * 64) := by omega
  rw [split, isSet_word read (by omega), Nat.add_sub_cancel_left]

/-- The outer loop yields the set bits from its word on. -/
theorem scanFrom_eq {size idx : Nat}
    (readable : forall n, idx ≤ n -> n * 64 < idx * 64 + size ->
      Exists fun word : Word => bitmap.words n = .ok word) :
    bitmap.scanFrom size idx (idx * 64) =
      ⟨(List.range' (idx * 64) size).filter bitmap.isSet, .completed⟩ := by
  induction size using Nat.strong_induction_on generalizing idx with
  | _ size inductionHypothesis =>
      rw [scanFrom]
      by_cases empty : size = 0
      · rw [if_pos empty, empty]
        rfl
      · rcases readable idx (Nat.le_refl idx) (by omega) with ⟨ulong, read⟩
        have word : bitmap.word idx = .ok ulong := by
          simp only [Bitmap.word]
          rw [read]
          rfl
        have split : List.range' (idx * 64) size =
            List.range' (idx * 64) (min size 64) ++
              List.range' (idx * 64 + min size 64) (size - 64) := by
          rw [List.range'_append_1]
          congr 1
          omega
        have here := scanWord_isSet read (Nat.min_le_right size 64)
        have rest : bitmap.scanFrom (size - 64) (idx + 1) (idx * 64 + min size 64) =
            ⟨(List.range' (idx * 64 + min size 64) (size - 64)).filter bitmap.isSet,
              .completed⟩ := by
          by_cases last : size - 64 = 0
          · rw [last, scanFrom, if_pos rfl]
            rfl
          · have next : idx * 64 + min size 64 = (idx + 1) * 64 := by omega
            rw [next]
            apply inductionHypothesis (size - 64) (by omega)
            intro n above below
            exact readable n (by omega) (by omega)
        rw [if_neg empty, word, split, List.filter_append, ← here]
        simp only
        by_cases nonzero : ulong = 0#64
        · have none : scanWord (min size 64) ulong (idx * 64) = [] := by
            rw [scanWord_eq, nonzero]
            apply List.filter_eq_nil_iff.mpr
            intro index _
            simp
          rw [if_neg fun other => other nonzero, none, List.nil_append]
          by_cases last : size - 64 = 0
          · rw [last, scanFrom, if_pos rfl]
            rfl
          · have next : idx * 64 + min size 64 = idx * 64 + 64 := by omega
            rw [← next]
            exact rest
        · rw [if_pos nonzero, rest]
          rfl

/-- `for_each_set_bit` yields the set bits. -/
theorem forEachSetBit_eq {sizeInBytes : Option Nat} (accepted : bitmap.type ≠ .other)
    (readable : bitmap.Readable ((bitmap.size sizeInBytes + 7) / 8)) :
    bitmap.forEachSetBit sizeInBytes =
      ⟨bitmap.setBits (bitmap.size sizeInBytes * 8), .completed⟩ := by
  simp only [forEachSetBit, checkType, setBits]
  rw [if_neg accepted, List.range_eq_range']
  have words : forall n, 0 ≤ n -> n * 64 < 0 * 64 + bitmap.size sizeInBytes * 8 ->
      Exists fun word : Word => bitmap.words n = .ok word := by
    intro n _ below
    apply readable
    omega
  have scan := scanFrom_eq words
  rw [Nat.zero_mul] at scan
  exact scan

/-! ## The searches in a word -/

theorem firstSetBit_eq {word : Word} (nonzero : word ≠ 0#64) :
    Exists fun index : Nat => LowestBit word index ∧ firstSetBit word = index + 1 := by
  simp only [firstSetBit]
  rw [if_neg nonzero]
  exact (SearchesLow.start nonzero).skip.skip.skip.skip.skip.skip.found

theorem lastSetBit_eq {word : Word} (nonzero : word ≠ 0#64) :
    Exists fun index : Nat => HighestBit word index ∧ lastSetBit word = index + 1 := by
  have search : SearchesHigh word (32 + 32) (word, 64) := SearchesHigh.start nonzero
  have by32 : SearchesHigh word (16 + 16) _ := search.skip (by decide)
  have by16 : SearchesHigh word (8 + 8) _ := by32.skip (by decide)
  have by8 : SearchesHigh word (4 + 4) _ := by16.skip (by decide)
  have by4 : SearchesHigh word (2 + 2) _ := by8.skip (by decide)
  have by2 : SearchesHigh word (1 + 1) _ := by4.skip (by decide)
  simp only [lastSetBit]
  rw [if_neg nonzero]
  exact (by2.skip (by decide)).found

theorem getLsbD_itemFrom {offset index : Nat} (word : Word) (inside : index < 64) :
    (itemFrom offset word).getLsbD index = (word.getLsbD index && decide (offset ≤ index)) := by
  simp only [itemFrom]
  by_cases positive : 0 < offset
  · rw [if_pos positive, BitVec.getLsbD_and, BitVec.getLsbD_not, getLsbD_lowMask]
    by_cases low : offset ≤ index
    · simp [inside, low]
    · simp [low, Nat.lt_of_not_le low]
  · have zero : offset = 0 := Nat.eq_zero_of_not_pos positive
    simp [zero]

/-- The search in a word from an offset on. -/
theorem find_word {n offset : Nat} {word : Word} (read : bitmap.words n = .ok word)
    (inside : offset < 64) :
    (itemFrom offset word = 0#64 ->
      (List.range' (n * 64 + offset) (64 - offset)).find? bitmap.isSet = none) ∧
    (itemFrom offset word ≠ 0#64 -> Exists fun index : Nat => offset ≤ index ∧
      firstSetBit (itemFrom offset word) = index + 1 ∧
      (List.range' (n * 64 + offset) (64 - offset)).find? bitmap.isSet = some (n * 64 + index)) := by
  have bits : forall index, offset ≤ index -> index < 64 ->
      bitmap.isSet (n * 64 + index) = (itemFrom offset word).getLsbD index := by
    intro index above below
    rw [isSet_word read below, getLsbD_itemFrom word below]
    simp [above]
  constructor
  · intro none
    apply List.find?_range'_eq_none.mpr
    intro bit above below
    have split : bit = n * 64 + (bit - n * 64) := by omega
    rw [split, bits _ (by omega) (by omega), none, BitVec.getLsbD_zero]
    rfl
  · intro nonzero
    rcases firstSetBit_eq nonzero with ⟨index, lowest, found⟩
    have below := index_lt_of_set lowest.set
    have above : offset ≤ index := by
      have set := lowest.set
      rw [getLsbD_itemFrom word below, Bool.and_eq_true, decide_eq_true_iff] at set
      exact set.2
    refine ⟨index, above, found, List.find?_range'_eq_some.mpr ⟨?_, ?_, ?_⟩⟩
    · rw [bits index above below]
      exact lowest.set
    · exact List.mem_range'_1.mpr ⟨by omega, by omega⟩
    · intro bit atLeast before
      have split : bit = n * 64 + (bit - n * 64) := by omega
      rw [split, bits _ (by omega) (by omega), lowest.below _ (by omega)]
      rfl

/-! ## The searches in a bitmap -/

/-- The result for a bit that was found or not. -/
def resultOf (found : Option Nat) : Nat :=
  found.elim 0 fun bit => bit + 1

theorem word_eq {n : Nat} {word : Word} (read : bitmap.words n = .ok word) :
    bitmap.word n = .ok word := by
  simp only [Bitmap.word]
  rw [read]
  rfl

/-- The loop of `find_next_set_bit` finds the next set bit, if it does not start
within a word that is zero. -/
theorem findNextFrom_eq {n count start offset : Nat}
    (readable : forall word, n ≤ word -> word < n + count ->
      Exists fun value : Word => bitmap.words word = .ok value)
    (inside : offset < 64) (before : start ≤ n * 64 + offset)
    (plain : offset = 0 ∨ bitmap.words n ≠ .ok 0#64) :
    bitmap.findNextFrom start (List.range' n count) offset =
      .ok (resultOf ((List.range' (n * 64 + offset) (count * 64 - offset)).find? bitmap.isSet)) := by
  induction count generalizing n offset with
  | zero =>
      rw [Nat.zero_mul, Nat.zero_sub]
      rfl
  | succ count inductionHypothesis =>
      rcases readable n (Nat.le_refl n) (by omega) with ⟨word, read⟩
      have split : List.range' (n * 64 + offset) ((count + 1) * 64 - offset) =
          List.range' (n * 64 + offset) (64 - offset) ++ List.range' ((n + 1) * 64) (count * 64) := by
        have next : (n + 1) * 64 = n * 64 + offset + (64 - offset) := by omega
        have total : (count + 1) * 64 - offset = 64 - offset + count * 64 := by omega
        rw [next, total, List.range'_append_1]
      have later : bitmap.findNextFrom start (List.range' (n + 1) count) 0 =
          .ok (resultOf ((List.range' ((n + 1) * 64) (count * 64)).find? bitmap.isSet)) := by
        apply inductionHypothesis
        · intro other above below
          exact readable other (by omega) (by omega)
        · decide
        · omega
        · exact .inl rfl
      have search := find_word read inside
      rw [List.range'_succ, findNextFrom, word_eq read, split, List.find?_append]
      change (if word = 0#64 then _ else _) = _
      by_cases zero : word = 0#64
      · have start : offset = 0 := by
          rcases plain with start | nonzero
          · exact start
          · exact False.elim (nonzero (zero ▸ read))
        have none : itemFrom offset word = 0#64 := by
          rw [start, zero]
          rfl
        rw [if_pos zero, search.1 none, start, later]
        rfl
      · rw [if_neg zero]
        by_cases none : itemFrom offset word = 0#64
        · rw [none, search.1 none]
          exact later
        · rcases search.2 none with ⟨index, above, found, first⟩
          have positive : 0 < index + 1 := Nat.succ_pos index
          have atLeast : start ≤ n * 64 + (index + 1) := by omega
          simp only [found, first, if_pos positive, if_pos atLeast]
          rfl

/-- `find_next_set_bit` finds the next set bit of the whole words, if it does not
start within a word that is zero. -/
theorem findNextSetBit_eq {sizeInBytes : Option Nat} {start : Nat}
    (accepted : bitmap.type ≠ .other) (readable : bitmap.Readable (bitmap.elements sizeInBytes))
    (before : start ≤ bitmap.elements sizeInBytes * 64)
    (plain : start % 64 = 0 ∨ bitmap.words (start / 64) ≠ .ok 0#64) :
    bitmap.findNextSetBit sizeInBytes start =
      .ok (resultOf ((List.range' start (bitmap.elements sizeInBytes * 64 - start)).find?
        bitmap.isSet)) := by
  have within : ¬ bitmap.size sizeInBytes * 8 < start := by
    simp only [elements] at before
    omega
  simp only [findNextSetBit, checkType]
  rw [if_neg accepted]
  change (if bitmap.size sizeInBytes * 8 < start then _ else _) = _
  rw [if_neg within]
  have words : forall word, start / 64 ≤ word ->
      word < start / 64 + (bitmap.elements sizeInBytes - start / 64) ->
        Exists fun value : Word => bitmap.words word = .ok value := by
    intro word above below
    exact readable word (by omega)
  rw [findNextFrom_eq words (Nat.mod_lt _ (by decide)) (by omega) plain]
  have place : start / 64 * 64 + start % 64 = start := by omega
  have rest : (bitmap.elements sizeInBytes - start / 64) * 64 - start % 64 =
      bitmap.elements sizeInBytes * 64 - start := by omega
  rw [place, rest]

/-- The greatest element of a sorted list is its last one. -/
theorem getLast_of_greatest {values : List Nat} (sorted : values.Pairwise (· < ·)) {value : Nat}
    (member : value ∈ values) (greatest : forall other, other ∈ values -> other ≤ value) :
    values.getLast? = some value := by
  rcases List.eq_nil_or_concat values with rfl | ⟨before, last, rfl⟩
  · cases member
  · rw [List.concat_eq_append] at *
    rw [List.getLast?_concat]
    have bounded := greatest last (List.mem_append_right _ List.mem_cons_self)
    rcases List.mem_append.mp member with early | here
    · have less := (List.pairwise_append.mp sorted).2.2 value early last List.mem_cons_self
      exact False.elim (Nat.not_lt_of_le bounded less)
    · rw [List.mem_singleton.mp here]

theorem setBits_succ (count : Nat) :
    bitmap.setBits ((count + 1) * 64) =
      bitmap.setBits (count * 64) ++ (List.range' (count * 64) 64).filter bitmap.isSet := by
  have split : List.range ((count + 1) * 64) =
      List.range (count * 64) ++ List.range' (count * 64) 64 := by
    have joined := @List.range'_append_1 0 (count * 64) 64
    rw [Nat.zero_add, ← List.range_eq_range'] at joined
    rw [joined, ← List.range_eq_range']
    congr 1
    omega
  simp only [setBits]
  rw [split, List.filter_append]

/-- `find_last_set_bit` finds the last set bit of the whole words. -/
theorem findLastFrom_eq {count : Nat} (readable : bitmap.Readable count) :
    bitmap.findLastFrom count = .ok (resultOf (bitmap.setBits (count * 64)).getLast?) := by
  induction count with
  | zero => rfl
  | succ count inductionHypothesis =>
      have earlier := inductionHypothesis fun n below => readable n (Nat.lt_succ_of_lt below)
      rcases readable count (Nat.lt_succ_self count) with ⟨word, read⟩
      rw [findLastFrom, word_eq read]
      change (if word = 0#64 then _ else _) = _
      by_cases zero : word = 0#64
      · have none : (List.range' (count * 64) 64).filter bitmap.isSet = [] := by
          rw [← scanWord_isSet read (Nat.le_refl 64), scanWord_eq, zero]
          apply List.filter_eq_nil_iff.mpr
          intro index _
          simp
        rw [if_pos zero, earlier, setBits_succ, none, List.append_nil]
      · rcases lastSetBit_eq zero with ⟨index, highest, found⟩
        have inside := index_lt_of_set highest.set
        have positive : 0 < index + 1 := Nat.succ_pos index
        have last : (bitmap.setBits ((count + 1) * 64)).getLast? = some (count * 64 + index) := by
          apply getLast_of_greatest (setBits_sorted _)
          · apply mem_setBits.mpr
            refine ⟨by omega, ?_⟩
            rw [isSet_word read inside]
            exact highest.set
          · intro other member
            rcases mem_setBits.mp member with ⟨below, set⟩
            by_contra beyond
            have split : other = count * 64 + (other - count * 64) := by omega
            rw [split, isSet_word read (by omega), highest.above _ (by omega)] at set
            cases set
        rw [if_neg zero, last]
        simp only [found, if_pos positive]
        rfl

theorem findLastSetBit_eq {sizeInBytes : Option Nat} (accepted : bitmap.type ≠ .other)
    (readable : bitmap.Readable (bitmap.elements sizeInBytes)) :
    bitmap.findLastSetBit sizeInBytes =
      .ok (resultOf (bitmap.setBits (bitmap.elements sizeInBytes * 64)).getLast?) := by
  simp only [findLastSetBit, checkType]
  rw [if_neg accepted]
  exact findLastFrom_eq readable

theorem findFirstSetBit_eq {sizeInBytes : Option Nat} (accepted : bitmap.type ≠ .other)
    (readable : bitmap.Readable (bitmap.elements sizeInBytes)) :
    bitmap.findFirstSetBit sizeInBytes =
      .ok (resultOf (bitmap.setBits (bitmap.elements sizeInBytes * 64)).head?) := by
  simp only [findFirstSetBit, setBits]
  rw [findNextSetBit_eq accepted readable (Nat.zero_le _) (.inl rfl), List.head?_filter,
    List.range_eq_range', Nat.sub_zero]

/-! ## Agreement -/

/-- The results of `find_next_set_bit` when each of them is the next start, up to
the result zero. -/
inductive NextResults (bitmap : Bitmap) (sizeInBytes : Option Nat) : Nat -> List Nat -> Prop where
  | done {start : Nat} (none : bitmap.findNextSetBit sizeInBytes start = .ok 0) :
      NextResults bitmap sizeInBytes start []
  | next {start result : Nat} {rest : List Nat}
      (found : bitmap.findNextSetBit sizeInBytes start = .ok result) (some : result ≠ 0)
      (onward : NextResults bitmap sizeInBytes result rest) :
      NextResults bitmap sizeInBytes start (result :: rest)

/-- The set bits after the first one of a range. -/
theorem filter_after_first {start count bit : Nat} {rest : List Nat}
    (bits : (List.range' start count).filter bitmap.isSet = bit :: rest) :
    bit < start + count ∧ bitmap.isSet bit = true ∧
      (List.range' (bit + 1) (start + count - (bit + 1))).filter bitmap.isSet = rest := by
  have first : (List.range' start count).find? bitmap.isSet = some bit := by
    rw [← List.head?_filter, bits]
    rfl
  rcases List.find?_range'_eq_some.mp first with ⟨set, member, before⟩
  have place := List.mem_range'_1.mp member
  have split : List.range' start count = List.range' start (bit - start) ++
      bit :: List.range' (bit + 1) (start + count - (bit + 1)) := by
    rw [← List.range'_succ]
    have joined := @List.range'_append_1 start (bit - start) (start + count - (bit + 1) + 1)
    rw [Nat.add_sub_cancel' place.1] at joined
    rw [joined]
    congr 1
    omega
  have none : (List.range' start (bit - start)).filter bitmap.isSet = [] := by
    apply List.filter_eq_nil_iff.mpr
    intro other inside
    have range := List.mem_range'_1.mp inside
    have unset := before other range.1 (by omega)
    simpa using unset
  rw [split, List.filter_append, none, List.nil_append, List.filter_cons, if_pos set] at bits
  exact ⟨place.2, set, (List.cons.inj bits).2⟩

/-- A start that a chain of searches comes to. -/
def ChainStart (bitmap : Bitmap) (start : Nat) : Prop :=
  start = 0 ∨ Exists fun bit : Nat => bitmap.isSet bit = true ∧ start = bit + 1

/-- Such a start is not within a word that is zero. -/
theorem ChainStart.plain {start : Nat} (begun : ChainStart bitmap start) :
    start % 64 = 0 ∨ bitmap.words (start / 64) ≠ .ok 0#64 := by
  rcases begun with zero | ⟨bit, set, rfl⟩
  · rw [zero]
    exact .inl rfl
  · rcases Nat.eq_zero_or_pos ((bit + 1) % 64) with aligned | inner
    · exact .inl aligned
    · have word : (bit + 1) / 64 = bit / 64 := by omega
      refine .inr ?_
      intro zero
      simp only [isSet] at set
      rw [← word, zero] at set
      simp at set

/-- A chain of searches goes through the set bits. -/
theorem nextResults_eq {sizeInBytes : Option Nat} (accepted : bitmap.type ≠ .other)
    (readable : bitmap.Readable (bitmap.elements sizeInBytes)) {bits : List Nat} {start : Nat}
    (before : start ≤ bitmap.elements sizeInBytes * 64) (begun : ChainStart bitmap start)
    (same : (List.range' start (bitmap.elements sizeInBytes * 64 - start)).filter bitmap.isSet =
      bits) :
    NextResults bitmap sizeInBytes start (bits.map fun bit => bit + 1) := by
  induction bits generalizing start with
  | nil =>
      have search := findNextSetBit_eq accepted readable before begun.plain
      rw [← List.head?_filter, same] at search
      exact .done search
  | cons bit rest inductionHypothesis =>
      have search := findNextSetBit_eq accepted readable before begun.plain
      rw [← List.head?_filter, same] at search
      rcases filter_after_first same with ⟨below, set, onward⟩
      have total : start + (bitmap.elements sizeInBytes * 64 - start) =
          bitmap.elements sizeInBytes * 64 := Nat.add_sub_cancel' before
      rw [total] at below onward
      exact .next search (Nat.succ_ne_zero bit)
        (inductionHypothesis below (.inr ⟨bit, set, rfl⟩) onward)

/-- The scans of a bitmap of whole words agree. -/
theorem scans_agree (bitmap : Bitmap) (sizeInBytes : Option Nat) (count : Nat)
    (accepted : bitmap.type ≠ .other) (whole : bitmap.size sizeInBytes = 8 * count)
    (readable : bitmap.Readable count) :
    Exists fun bits : List Nat =>
      bitmap.forEachSetBit sizeInBytes = ⟨bits, .completed⟩ ∧
      bits.Pairwise (· < ·) ∧
      (forall bit, bit ∈ bits <-> bit < 64 * count ∧ bitmap.isSet bit = true) ∧
      bitmap.findFirstSetBit sizeInBytes = .ok (bits.head?.elim 0 fun bit => bit + 1) ∧
      bitmap.findLastSetBit sizeInBytes = .ok (bits.getLast?.elim 0 fun bit => bit + 1) ∧
      NextResults bitmap sizeInBytes 0 (bits.map fun bit => bit + 1) := by
  have elements : bitmap.elements sizeInBytes = count := by
    simp only [Bitmap.elements]
    rw [whole]
    exact Nat.mul_div_cancel_left count (by decide)
  have bound : bitmap.size sizeInBytes * 8 = count * 64 := by omega
  have rounded : (bitmap.size sizeInBytes + 7) / 8 = count := by omega
  have words : bitmap.Readable (bitmap.elements sizeInBytes) := by
    rw [elements]
    exact readable
  refine ⟨bitmap.setBits (count * 64), ?_, setBits_sorted _, ?_, ?_, ?_, ?_⟩
  · rw [← bound]
    apply forEachSetBit_eq accepted
    rw [rounded]
    exact readable
  · intro bit
    rw [mem_setBits, Nat.mul_comm]
  · rw [← elements]
    exact findFirstSetBit_eq accepted words
  · rw [← elements]
    exact findLastSetBit_eq accepted words
  · rw [← elements]
    apply nextResults_eq accepted words (Nat.zero_le _) (.inl rfl)
    rw [Nat.sub_zero, ← List.range_eq_range']
    rfl

theorem scans_agree_twoWords :
    Exists fun bits : List Nat =>
      forEachSetBit ⟨.ulongArray 2, fun n => .ok (BitVec.ofNat 64 (n + 5))⟩ none =
        ⟨bits, .completed⟩ ∧
      NextResults ⟨.ulongArray 2, fun n => .ok (BitVec.ofNat 64 (n + 5))⟩ none 0
        (bits.map fun bit => bit + 1) := by
  rcases scans_agree ⟨.ulongArray 2, fun n => .ok (BitVec.ofNat 64 (n + 5))⟩ none 2 (by decide) rfl
    (fun n _ => ⟨_, rfl⟩) with ⟨bits, yields, _, _, _, _, chain⟩
  exact ⟨bits, yields, chain⟩

/-! ## Sizes that are no whole number of words -/

theorem and_shiftLeft_one_ne_zero (word : Word) {offset : Nat} (inside : offset < 64) :
    (word &&& (1#64 <<< offset) != 0#64) = word.getLsbD offset := by
  have bit : forall index, (1#64 <<< offset).getLsbD index = decide (index = offset) := by
    intro index
    rw [BitVec.getLsbD_shiftLeft, BitVec.getLsbD_one]
    by_cases same : index = offset
    · simp [same, inside]
    · by_cases below : index < offset
      · simp [same, below]
      · have later : index - offset ≠ 0 := by omega
        simp [same, later]
  cases set : word.getLsbD offset with
  | true =>
      rw [bne_iff_ne]
      intro zero
      have here := congrArg (fun value => BitVec.getLsbD value offset) zero
      simp [bit, set] at here
  | false =>
      rw [bne_eq_false_iff_eq]
      apply BitVec.eq_of_getLsbD_eq
      intro index _
      rw [BitVec.getLsbD_and, bit]
      by_cases same : index = offset
      · simp [same, set]
      · simp [same]

/-- `test_bit` tests the bits of whole words, and refuses all others. -/
theorem testBit_eq {sizeInBytes : Option Nat} (accepted : bitmap.type ≠ .other)
    (readable : bitmap.Readable (bitmap.elements sizeInBytes)) (bit : Nat) :
    bitmap.testBit sizeInBytes bit =
      if bitmap.elements sizeInBytes ≤ bit / 64 then
        .error (.valueError bit (bitmap.size sizeInBytes * 8))
      else .ok (bitmap.isSet bit) := by
  simp only [testBit, checkType]
  rw [if_neg accepted]
  change (if bitmap.elements sizeInBytes ≤ bit / 64 then _ else _) = _
  by_cases outside : bitmap.elements sizeInBytes ≤ bit / 64
  · rw [if_pos outside, if_pos outside]
  · rcases readable (bit / 64) (Nat.lt_of_not_le outside) with ⟨word, read⟩
    have offset : bit % 64 < 64 := Nat.mod_lt bit (by decide)
    rw [if_neg outside, if_neg outside, word_eq read]
    change Except.ok (word &&& (1#64 <<< (bit % 64)) != 0#64) = _
    simp only [isSet]
    rw [read, and_shiftLeft_one_ne_zero word offset]

/-- The functions describe the same set of bits, all of which are below the size. -/
structure SameBits (bitmap : Bitmap) (sizeInBytes : Nat) : Prop where
  tested : forall bit, bit < 8 * sizeInBytes ->
    (bitmap.testBit (some sizeInBytes) bit = .ok true <->
      bit ∈ (bitmap.forEachSetBit (some sizeInBytes)).events)
  first : bitmap.findFirstSetBit (some sizeInBytes) = .ok 0 <->
    (bitmap.forEachSetBit (some sizeInBytes)).events = []
  last : bitmap.findLastSetBit (some sizeInBytes) = .ok 0 <->
    (bitmap.forEachSetBit (some sizeInBytes)).events = []
  yieldedBelow : forall bit, bit ∈ (bitmap.forEachSetBit (some sizeInBytes)).events ->
    bit < 8 * sizeInBytes
  testedBelow : forall bit, bitmap.testBit (some sizeInBytes) bit = .ok true ->
    bit < 8 * sizeInBytes
  firstBelow : forall result, bitmap.findFirstSetBit (some sizeInBytes) = .ok result ->
    result ≤ 8 * sizeInBytes
  lastBelow : forall result, bitmap.findLastSetBit (some sizeInBytes) = .ok result ->
    result ≤ 8 * sizeInBytes

/-- The result for a bit below a bound. -/
theorem resultOf_le {found : Option Nat} {bound : Nat}
    (below : forall bit, found = some bit -> bit < bound) : resultOf found ≤ bound := by
  cases found with
  | none => exact Nat.zero_le bound
  | some bit => exact below bit rfl

theorem resultOf_eq_zero {found : Option Nat} : resultOf found = 0 <-> found = none := by
  cases found with
  | none => exact ⟨fun _ => rfl, fun _ => rfl⟩
  | some bit => exact ⟨fun impossible => Nat.noConfusion impossible, nofun⟩

/-- Bits that are not set can be left out. -/
theorem setBits_of_unset {low high : Nat} (ordered : low ≤ high)
    (unset : forall bit, low ≤ bit -> bit < high -> bitmap.isSet bit = false) :
    bitmap.setBits high = bitmap.setBits low := by
  have split : List.range high = List.range low ++ List.range' low (high - low) := by
    have joined := @List.range'_append_1 0 low (high - low)
    rw [Nat.zero_add, Nat.add_sub_cancel' ordered, ← List.range_eq_range',
      ← List.range_eq_range'] at joined
    exact joined.symm
  have none : (List.range' low (high - low)).filter bitmap.isSet = [] := by
    apply List.filter_eq_nil_iff.mpr
    intro bit member
    have place := List.mem_range'_1.mp member
    rw [unset bit place.1 (by omega)]
    exact Bool.false_ne_true
  simp only [setBits]
  rw [split, List.filter_append, none, List.append_nil]

/-- A bitmap of some bytes, as the generator sees it and as a single test sees it. -/
theorem forEachSetBit_bytes {bitmap : Bitmap} {sizeInBytes : Nat} (accepted : bitmap.type ≠ .other)
    (readable : bitmap.Readable ((sizeInBytes + 7) / 8)) :
    bitmap.forEachSetBit (some sizeInBytes) = ⟨bitmap.setBits (8 * sizeInBytes), .completed⟩ ∧
      bitmap.Readable (bitmap.elements (some sizeInBytes)) := by
  have yields : bitmap.forEachSetBit (some sizeInBytes) =
      ⟨bitmap.setBits (sizeInBytes * 8), .completed⟩ := forEachSetBit_eq accepted readable
  rw [Nat.mul_comm] at yields
  refine ⟨yields, fun n below => ?_⟩
  have whole : n < sizeInBytes / 8 := below
  exact readable n (by omega)

theorem testBit_bytes {bitmap : Bitmap} {sizeInBytes : Nat} (accepted : bitmap.type ≠ .other)
    (words : bitmap.Readable (bitmap.elements (some sizeInBytes))) (bit : Nat) :
    bitmap.testBit (some sizeInBytes) bit =
      if sizeInBytes / 8 ≤ bit / 64 then .error (.valueError bit (sizeInBytes * 8))
      else .ok (bitmap.isSet bit) :=
  testBit_eq accepted words bit

/-- Without such bits, all functions see the bits of the whole words. -/
theorem sameBits_of_unset {bitmap : Bitmap} {sizeInBytes : Nat} (accepted : bitmap.type ≠ .other)
    (readable : bitmap.Readable ((sizeInBytes + 7) / 8))
    (unset : forall bit, sizeInBytes / 8 * 64 ≤ bit -> bit < 8 * sizeInBytes -> bitmap.isSet bit = false) :
    bitmap.SameBits sizeInBytes := by
  rcases forEachSetBit_bytes accepted readable with ⟨yields, words⟩
  have bounded : sizeInBytes / 8 * 64 ≤ 8 * sizeInBytes := by omega
  have whole : bitmap.setBits (8 * sizeInBytes) = bitmap.setBits (sizeInBytes / 8 * 64) :=
    setBits_of_unset bounded unset
  have found : forall {bit}, bit ∈ bitmap.setBits (sizeInBytes / 8 * 64) ->
      bit < 8 * sizeInBytes :=
    fun member => Nat.lt_of_lt_of_le (mem_setBits.mp member).1 bounded
  have first : bitmap.findFirstSetBit (some sizeInBytes) =
      .ok (resultOf (bitmap.setBits (sizeInBytes / 8 * 64)).head?) :=
    findFirstSetBit_eq accepted words
  have last : bitmap.findLastSetBit (some sizeInBytes) =
      .ok (resultOf (bitmap.setBits (sizeInBytes / 8 * 64)).getLast?) :=
    findLastSetBit_eq accepted words
  constructor
  · intro bit below
    rw [yields, testBit_bytes accepted words, whole]
    change _ <-> bit ∈ bitmap.setBits (sizeInBytes / 8 * 64)
    rw [mem_setBits]
    by_cases outside : sizeInBytes / 8 ≤ bit / 64
    · rw [if_pos outside]
      exact ⟨nofun, fun both => False.elim (by omega)⟩
    · rw [if_neg outside, Except.ok.injEq]
      exact ⟨fun set => ⟨by omega, set⟩, fun both => both.2⟩
  · rw [yields, first, whole, Except.ok.injEq, resultOf_eq_zero]
    exact List.head?_eq_none_iff
  · rw [yields, last, whole, Except.ok.injEq, resultOf_eq_zero]
    exact List.getLast?_eq_none_iff
  · intro bit member
    rw [yields] at member
    exact (mem_setBits.mp member).1
  · intro bit tested
    rw [testBit_bytes accepted words] at tested
    split at tested
    · cases tested
    · omega
  · intro result ended
    rw [first] at ended
    rw [← Except.ok.inj ended]
    exact resultOf_le fun bit some => found (List.mem_of_head? some)
  · intro result ended
    rw [last] at ended
    rw [← Except.ok.inj ended]
    exact resultOf_le fun bit some => found (List.mem_of_getLast? some)

/-- The functions describe the same set of bits exactly if no bit is set in a word
that is not there as a whole. -/
theorem sameBits_iff (bitmap : Bitmap) (sizeInBytes : Nat) (accepted : bitmap.type ≠ .other)
    (readable : bitmap.Readable ((sizeInBytes + 7) / 8)) :
    bitmap.SameBits sizeInBytes <->
      forall bit, sizeInBytes / 8 * 64 ≤ bit -> bit < 8 * sizeInBytes -> bitmap.isSet bit = false := by
  constructor
  · intro same bit above below
    rcases forEachSetBit_bytes accepted readable with ⟨yields, words⟩
    apply Bool.eq_false_iff.mpr
    intro set
    have yielded : bit ∈ (bitmap.forEachSetBit (some sizeInBytes)).events := by
      rw [yields]
      exact mem_setBits.mpr ⟨below, set⟩
    have tested := (same.tested bit below).mpr yielded
    rw [testBit_bytes accepted words, if_pos (by omega)] at tested
    cases tested
  · exact sameBits_of_unset accepted readable

/-- A bitmap of two words.  The bits zero and five of the first one are set, and of the
second one only a bit in its upper half. -/
def twoWords : Bitmap :=
  ⟨.ulongPointer, fun n => .ok (if n = 0 then 0x21#64 else 0x10000000000#64)⟩

theorem sameBits_iff_twelveBytes :
    twoWords.SameBits 12 ∧ twoWords.setBits 96 = [0, 5] := by
  have upper : forall bit, bit < 32 -> twoWords.isSet (64 + bit) = false := by decide
  have none : forall bit, 64 ≤ bit -> bit < 96 -> twoWords.isSet bit = false := by
    intro bit above below
    rw [← Nat.add_sub_cancel' above]
    exact upper _ (by omega)
  exact ⟨(sameBits_iff twoWords 12 (by decide) fun n _ => ⟨_, rfl⟩).mpr none, rfl⟩

/-- In a bitmap of one byte the generator finds a bit that the searches do not. -/
theorem sameBits_fails_oneByte :
    ¬ SameBits ⟨.ulongPointer, fun _ => .ok 1#64⟩ 1 := by
  intro same
  have none : (forEachSetBit ⟨.ulongPointer, fun _ => .ok 1#64⟩ (some 1)).events = [] :=
    same.first.mp rfl
  rw [forEachSetBit_eq (by decide) fun n _ => ⟨_, rfl⟩] at none
  have member : 0 ∈ setBits ⟨.ulongPointer, fun _ => .ok 1#64⟩ 8 :=
    mem_setBits.mpr ⟨by decide, rfl⟩
  have empty : setBits ⟨.ulongPointer, fun _ => .ok 1#64⟩ 8 = [] := none
  rw [empty] at member
  cases member

end Bitmap
end Types
end CrashPython

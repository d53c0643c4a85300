import CrashPython.Library.PyString
import CrashPython.Library.Splitting
import Mathlib.Data.Int.Bitwise
import Mathlib.Data.List.Sort

namespace CrashPython
namespace Util

open Library

/-!
# Flags as text

`decode_flags` of `crash/util/__init__.py` goes through the bits of a value from the lowest
to the highest.  A bit that is set contributes the name that the dictionary has for its
mask, or `FLAG_` and the number of the bit, and the contributions are joined by a
separator.

The text can be read back if it can be cut at the separator again.  That the names do not
contain the separator is not enough for this.
-/

/-- A value of an integer type with this many bytes. -/
structure FlagsValue (sizeof : Nat) where
  signed : Bool
  bits : BitVec (sizeof * 8)

/-- `int` of the value, which is negative if the type is signed and the highest bit is set. -/
def FlagsValue.int {sizeof : Nat} (value : FlagsValue sizeof) : Int :=
  if value.signed then value.bits.toInt else value.bits.toNat

/-- A dictionary of names, by their masks. -/
abbrev FlagNames := Nat -> Option PyString

/-- The name that is made for a bit. -/
def flagName (n : Nat) : PyString :=
  "FLAG_".toList ++ Nat.toDigits 10 n

/-- `decode_flags`. -/
def decodeFlags {sizeof : Nat} (value : FlagsValue sizeof) (names : FlagNames)
    (separator : PyString) : PyString :=
  let flags := (List.range (sizeof <<< 3)).filterMap fun n =>
    if Int.land value.int ((1 <<< n : Nat) : Int) = 0 then none
    else
      match names (1 <<< n) with
      | some name => some name
      | none => some (flagName n)
  separator.intercalate flags

/-- The bits of a value that are set, from the lowest on. -/
def FlagsValue.setBits {sizeof : Nat} (value : FlagsValue sizeof) : List Nat :=
  (List.range (sizeof * 8)).filter value.bits.getLsbD

/-- What a bit contributes. -/
def flagLabel (names : FlagNames) (n : Nat) : PyString :=
  (names (2 ^ n)).getD (flagName n)

/-- The bit that a piece of the text stands for: the bit with this name, or the bit for
which this name is made. -/
def pieceBit (names : FlagNames) (width : Nat) (piece : PyString) : Option Nat :=
  match (List.range width).find? fun n => names (2 ^ n) = some piece with
  | some n => some n
  | none => (List.range width).find? fun n => flagName n = piece

/-- The bits that the pieces of a text stand for.  An empty text has no pieces. -/
def recoveredBits (names : FlagNames) (width : Nat) (separator text : PyString) :
    List (Option Nat) :=
  if text = [] then [] else (split separator text).map (pieceBit names width)

/-- A dictionary whose names are not empty, are different for different masks, and are none
of the names that are made. -/
structure GoodNames (names : FlagNames) : Prop where
  nonempty : forall {mask : Nat} {name : PyString}, names mask = some name -> name ≠ []
  distinct : forall {mask other : Nat} {name : PyString},
    names mask = some name -> names other = some name -> mask = other
  notMade : forall {mask : Nat} {name : PyString}, names mask = some name ->
    forall n, name ≠ flagName n

/-- The contributions of the bits can be told apart: none contains the separator, and none
but that of the highest bit has a separator begin in it that ends in the one behind it. -/
def SeparableLabels (names : FlagNames) (separator : PyString) (width : Nat) : Prop :=
  forall n, n < width -> ¬ separator <:+: flagLabel names n ∧
    (n + 1 < width -> Clear separator (flagLabel names n))

section Bits

variable {sizeof : Nat} (value : FlagsValue sizeof)

/-- The bits of the integer are those of the value, also when it is negative. -/
theorem testBit_int {n : Nat} (inside : n < sizeof * 8) :
    value.int.testBit n = value.bits.getLsbD n := by
  rcases value with ⟨signed, bits⟩
  have unsigned : Int.testBit (bits.toNat : Int) n = bits.getLsbD n := rfl
  cases signed with
  | false => exact unsigned
  | true =>
      change Int.testBit bits.toInt n = _
      rw [BitVec.toInt_eq_toNat_cond]
      split
      · exact unsigned
      · have small := bits.isLt
        have complement : (bits.toNat : Int) - (2 ^ (sizeof * 8) : Nat) =
            Int.negSucc (2 ^ (sizeof * 8) - (bits.toNat + 1)) := by
          rw [Int.negSucc_eq]
          omega
        rw [complement]
        change (!Nat.testBit (2 ^ (sizeof * 8) - (bits.toNat + 1)) n) = _
        rw [Nat.testBit_two_pow_sub_succ small, decide_eq_true inside, Bool.true_and, Bool.not_not]
        rfl

/-- Masking with one bit asks for this bit. -/
theorem land_two_pow_eq_zero (flags : Int) (n : Nat) :
    Int.land flags ((2 ^ n : Nat) : Int) = 0 <-> flags.testBit n = false := by
  cases flags with
  | ofNat m =>
      change ((m &&& 2 ^ n : Nat) : Int) = 0 <-> m.testBit n = false
      rw [Nat.and_two_pow]
      cases m.testBit n <;> simp
  | negSucc m =>
      change ((Nat.ldiff (2 ^ n) m : Nat) : Int) = 0 <-> (!m.testBit n) = false
      rw [Int.natCast_eq_zero]
      constructor
      · intro zero
        have bit := Nat.testBit_ldiff (2 ^ n) m n
        rw [zero, Nat.zero_testBit, Nat.testBit_two_pow_self, Bool.true_and] at bit
        exact bit.symm
      · intro set
        apply Nat.zero_of_testBit_eq_false
        intro k
        rw [Nat.testBit_ldiff, Nat.testBit_two_pow]
        by_cases same : n = k
        · rw [← same, set, Bool.and_false]
        · rw [decide_eq_false same, Bool.false_and]

/-- The text joins the contributions of the bits that are set. -/
theorem decodeFlags_eq (names : FlagNames) (separator : PyString) :
    decodeFlags value names separator =
      separator.intercalate (value.setBits.map (flagLabel names)) := by
  simp only [decodeFlags, FlagsValue.setBits]
  rw [← List.filterMap_eq_map, List.filterMap_filter, Nat.shiftLeft_eq]
  refine congrArg separator.intercalate (List.filterMap_congr ?_)
  intro n member
  have inside : n < sizeof * 8 := List.mem_range.mp member
  rw [Nat.one_shiftLeft]
  simp only [land_two_pow_eq_zero, testBit_int value inside]
  cases value.bits.getLsbD n with
  | false => rfl
  | true =>
      simp only [Bool.true_eq_false, if_false, if_true, Function.comp_apply, flagLabel]
      cases names (2 ^ n) <;> rfl

end Bits

section Labels

variable {names : FlagNames} {width : Nat}

theorem flagName_injective {n m : Nat} (same : flagName n = flagName m) : n = m := by
  have digits := List.append_cancel_left same
  rw [← @Nat.ofDigitChars_ten_toDigits n, digits, Nat.ofDigitChars_ten_toDigits]

/-- A search among the bits finds the only one that it can find. -/
theorem find?_range_of_unique {found : Nat -> Bool} {n : Nat} (inside : n < width)
    (here : found n = true) (only : forall m, found m = true -> m = n) :
    (List.range width).find? found = some n := by
  cases search : (List.range width).find? found with
  | none =>
      have missing := List.find?_eq_none.mp search n (List.mem_range.mpr inside)
      exact False.elim (missing here)
  | some m => rw [only m (List.find?_some search)]

/-- What a bit contributes stands for this bit. -/
theorem pieceBit_flagLabel (good : GoodNames names) {n : Nat} (inside : n < width) :
    pieceBit names width (flagLabel names n) = some n := by
  simp only [pieceBit]
  cases named : names (2 ^ n) with
  | some name =>
      have label : flagLabel names n = name := by rw [flagLabel, named, Option.getD_some]
      have search : (List.range width).find? (fun m => names (2 ^ m) = some name) = some n := by
        apply find?_range_of_unique inside (decide_eq_true named)
        intro m same
        exact Nat.pow_right_injective (Nat.le_refl 2) (good.distinct (of_decide_eq_true same) named)
      rw [label, search]
  | none =>
      have label : flagLabel names n = flagName n := by rw [flagLabel, named, Option.getD_none]
      have noName : (List.range width).find? (fun m => names (2 ^ m) = some (flagName n)) = none := by
        apply List.find?_eq_none.mpr
        intro m _ same
        exact good.notMade (of_decide_eq_true same) n rfl
      rw [label, noName]
      exact find?_range_of_unique inside (decide_eq_true rfl)
        fun m same => flagName_injective (of_decide_eq_true same)

theorem flagLabel_ne_nil (good : GoodNames names) (n : Nat) : flagLabel names n ≠ [] := by
  simp only [flagLabel]
  cases named : names (2 ^ n) with
  | some name => exact good.nonempty named
  | none => exact List.append_ne_nil_of_left_ne_nil (by decide) _

/-- The contributions of some bits, in increasing order. -/
theorem separable_labels {separator : PyString} (separable : SeparableLabels names separator width)
    {bits : List Nat} (increasing : bits.Pairwise (· < ·)) (inside : forall n, n ∈ bits -> n < width) :
    Separable separator (bits.map (flagLabel names)) := by
  induction bits with
  | nil => trivial
  | cons n bits inductionHypothesis =>
      have here := separable n (inside n List.mem_cons_self)
      cases bits with
      | nil => exact here.1
      | cons m bits =>
          have later := inside m (List.mem_cons_of_mem n List.mem_cons_self)
          have order := List.rel_of_pairwise_cons increasing List.mem_cons_self
          exact ⟨here.2 (Nat.lt_of_le_of_lt order later), inductionHypothesis increasing.of_cons
            fun k member => inside k (List.mem_cons_of_mem n member)⟩

end Labels

section Recovery

variable {sizeof : Nat} {names : FlagNames} {separator : PyString}

theorem setBits_increasing (value : FlagsValue sizeof) : value.setBits.Pairwise (· < ·) :=
  List.pairwise_lt_range.sublist List.filter_sublist

theorem mem_setBits {value : FlagsValue sizeof} {n : Nat} :
    n ∈ value.setBits <-> n < sizeof * 8 ∧ value.bits.getLsbD n = true := by
  simp only [FlagsValue.setBits]
  rw [List.mem_filter, List.mem_range]

/-- The text of a value can be cut into the contributions of its bits. -/
theorem split_decodeFlags (nonempty : separator ≠ [])
    (separable : SeparableLabels names separator (sizeof * 8)) (value : FlagsValue sizeof)
    (some : value.setBits ≠ []) :
    split separator (decodeFlags value names separator) = value.setBits.map (flagLabel names) := by
  have labels := separable_labels separable (setBits_increasing value)
    fun n member => (mem_setBits.mp member).1
  rw [decodeFlags_eq]
  cases bits : value.setBits with
  | nil => exact False.elim (some bits)
  | cons n rest =>
      rw [bits] at labels
      exact (split_intercalate_iff nonempty _ _).mpr labels

/-- The bits of a value, when it is known which they are. -/
theorem setBits_eq {value : FlagsValue sizeof} {bits : List Nat} (increasing : bits.Pairwise (· < ·))
    (which : forall n, n ∈ bits <-> n < sizeof * 8 ∧ value.bits.getLsbD n = true) :
    value.setBits = bits := by
  apply (setBits_increasing value).eq_of_mem_iff increasing
  intro n
  rw [mem_setBits, which]

/-- The texts of all values can be cut into the contributions of their bits just if the
contributions are separable. -/
theorem separableLabels_iff (nonempty : separator ≠ []) :
    SeparableLabels names separator (sizeof * 8) <->
      forall value : FlagsValue sizeof, value.setBits ≠ [] ->
        split separator (decodeFlags value names separator) =
          value.setBits.map (flagLabel names) := by
  constructor
  · exact split_decodeFlags nonempty
  · intro cuts n inside
    constructor
    · have single : (FlagsValue.mk false (BitVec.twoPow (sizeof * 8) n)).setBits = [n] := by
        apply setBits_eq (List.pairwise_singleton _ n)
        intro m
        simp only [List.mem_singleton, BitVec.getLsbD_twoPow, Bool.and_eq_true, decide_eq_true_eq]
        omega
      have cut := cuts ⟨false, BitVec.twoPow (sizeof * 8) n⟩
      rw [decodeFlags_eq, single] at cut
      exact (split_intercalate_iff nonempty _ _).mp (cut (List.cons_ne_nil _ _))
    · intro next
      have pair : (FlagsValue.mk false
          (BitVec.twoPow (sizeof * 8) n ||| BitVec.twoPow (sizeof * 8) (n + 1))).setBits = [n, n + 1] := by
        apply setBits_eq (List.pairwise_pair.mpr (Nat.lt_succ_self n))
        intro m
        simp only [List.mem_cons, List.not_mem_nil, or_false, BitVec.getLsbD_or,
          BitVec.getLsbD_twoPow, Bool.or_eq_true, Bool.and_eq_true, decide_eq_true_eq]
        omega
      have cut := cuts ⟨false, BitVec.twoPow (sizeof * 8) n ||| BitVec.twoPow (sizeof * 8) (n + 1)⟩
      rw [decodeFlags_eq, pair] at cut
      exact ((split_intercalate_iff nonempty _ _).mp (cut (List.cons_ne_nil _ _))).1

/-- The text of a value is empty just if no bit is set. -/
theorem decodeFlags_eq_nil (good : GoodNames names) (value : FlagsValue sizeof) :
    decodeFlags value names separator = [] <-> value.setBits = [] := by
  rw [decodeFlags_eq]
  cases value.setBits with
  | nil => exact ⟨fun _ => rfl, fun _ => rfl⟩
  | cons n rest =>
      have label := flagLabel_ne_nil good n
      constructor
      · intro empty
        cases rest with
        | nil =>
            rw [List.map_cons, List.map_nil, List.intercalate_singleton] at empty
            exact False.elim (label empty)
        | cons m rest =>
            rw [List.map_cons, List.map_cons, List.intercalate_cons_cons] at empty
            exact False.elim (label (List.append_eq_nil_iff.mp (List.append_eq_nil_iff.mp empty).1).1)
      · intro impossible
        cases impossible

/-- The pieces of the text stand for the bits of the value. -/
theorem recoveredBits_decodeFlags (nonempty : separator ≠ []) (good : GoodNames names)
    (separable : SeparableLabels names separator (sizeof * 8)) (value : FlagsValue sizeof) :
    recoveredBits names (sizeof * 8) separator (decodeFlags value names separator) =
      value.setBits.map some := by
  simp only [recoveredBits]
  by_cases empty : value.setBits = []
  · rw [if_pos ((decodeFlags_eq_nil good value).mpr empty), empty]
    rfl
  · rw [if_neg ((decodeFlags_eq_nil good value).not.mpr empty),
      split_decodeFlags nonempty separable value empty, List.map_map]
    apply List.map_congr_left
    intro n member
    exact pieceBit_flagLabel good (mem_setBits.mp member).1

/-- Values with the same bits that are set are the same. -/
theorem bits_eq_of_setBits {value other : FlagsValue sizeof} (same : value.setBits = other.setBits) :
    value.bits = other.bits := by
  apply BitVec.eq_of_getLsbD_eq
  intro n inside
  have iff : value.bits.getLsbD n = true <-> other.bits.getLsbD n = true := by
    have one := @mem_setBits sizeof value n
    have two := @mem_setBits sizeof other n
    rw [same] at one
    exact ⟨fun set => (two.mp (one.mpr ⟨inside, set⟩)).2, fun set => (one.mp (two.mpr ⟨inside, set⟩)).2⟩
  exact Bool.eq_iff_iff.mpr iff

/-- The text of a value determines its bits, each of them once and in increasing order. -/
theorem decodeFlags_recovers (nonempty : separator ≠ []) (good : GoodNames names)
    (separable : SeparableLabels names separator (sizeof * 8)) :
    (forall value : FlagsValue sizeof,
      recoveredBits names (sizeof * 8) separator (decodeFlags value names separator) =
        value.setBits.map some) ∧
    forall value other : FlagsValue sizeof,
      decodeFlags value names separator = decodeFlags other names separator ->
        value.bits = other.bits := by
  have recovers := @recoveredBits_decodeFlags sizeof names separator nonempty good separable
  refine ⟨recovers, ?_⟩
  intro value other same
  apply bits_eq_of_setBits
  have bits := (recovers value).symm.trans ((congrArg _ same).trans (recovers other))
  exact List.map_injective_iff.mpr (Option.some_injective Nat) bits

end Recovery

/-! ## Dictionaries that are written down -/

/-- The dictionary with these entries. -/
def FlagNames.ofList (entries : List (Nat × PyString)) : FlagNames :=
  fun mask => (entries.find? fun entry => entry.1 = mask).map Prod.snd

section Entries

variable {entries : List (Nat × PyString)}

theorem mem_of_ofList {mask : Nat} {name : PyString}
    (found : FlagNames.ofList entries mask = some name) : (mask, name) ∈ entries := by
  rcases Option.map_eq_some_iff.mp found with ⟨⟨key, value⟩, search, same⟩
  have keyed := List.find?_some search
  have member := List.mem_of_find?_eq_some search
  change decide (key = mask) = true at keyed
  change value = name at same
  rwa [of_decide_eq_true keyed, same] at member

theorem goodNames_ofList (nonempty : forall entry, entry ∈ entries -> entry.2 ≠ [])
    (distinct : (entries.map Prod.snd).Nodup)
    (notMade : forall entry, entry ∈ entries -> ¬ "FLAG_".toList <+: entry.2) :
    GoodNames (FlagNames.ofList entries) where
  nonempty := fun found => nonempty _ (mem_of_ofList found)
  distinct := fun found again =>
    (Prod.mk.inj (List.inj_on_of_nodup_map distinct (mem_of_ofList found) (mem_of_ofList again) rfl)).1
  notMade := by
    intro mask name found n same
    apply notMade _ (mem_of_ofList found)
    exact ⟨Nat.toDigits 10 n, same.symm⟩

/-- A separator of one symbol that is in none of the names, and is no digit and none of the
letters of `FLAG_`. -/
theorem separableLabels_ofList {symbol : Char}
    (absent : forall entry, entry ∈ entries -> symbol ∉ entry.2)
    (noLetter : symbol ∉ "FLAG_".toList) (noDigit : symbol.isDigit = false) (width : Nat) :
    SeparableLabels (FlagNames.ofList entries) [symbol] width := by
  have missing : forall n, symbol ∉ flagLabel (FlagNames.ofList entries) n := by
    intro n
    simp only [flagLabel]
    cases named : FlagNames.ofList entries (2 ^ n) with
    | some name => exact absent _ (mem_of_ofList named)
    | none =>
        intro member
        rcases List.mem_append.mp member with letter | digit
        · exact noLetter letter
        · have isDigit := Nat.isDigit_of_mem_toDigits (by decide) (by decide) digit
          exact Bool.false_ne_true (noDigit.symm.trans isDigit)
  intro n _
  refine ⟨fun infix_ => missing n (infix_.subset List.mem_cons_self), fun _ => ?_⟩
  exact clear_singleton.mpr (missing n)

end Entries

/-- Two bits with names. -/
def readableEntries : List (Nat × PyString) :=
  [(1, "ro".toList), (4, "rw".toList)]

theorem decodeFlags_recovers_readable :
    GoodNames (FlagNames.ofList readableEntries) ∧
      SeparableLabels (FlagNames.ofList readableEntries) "|".toList (1 * 8) ∧
      recoveredBits (FlagNames.ofList readableEntries) (1 * 8) "|".toList
          (@decodeFlags 1 ⟨true, 0x85#8⟩ (FlagNames.ofList readableEntries) "|".toList) =
        [some 0, some 2, some 7] := by
  have good : GoodNames (FlagNames.ofList readableEntries) :=
    goodNames_ofList (by decide) (by decide) (by decide)
  have separable : SeparableLabels (FlagNames.ofList readableEntries) "|".toList (1 * 8) :=
    separableLabels_ofList (by decide) (by decide) (by decide) _
  exact ⟨good, separable, (decodeFlags_recovers (by decide) good separable).1 ⟨true, 0x85#8⟩⟩

/-- The names do not contain the separator. -/
def AvoidedBy (separator : PyString) (names : FlagNames) : Prop :=
  forall mask name, names mask = some name -> ¬ separator <:+: name

/-- A dictionary where the separator `_` is in the names that are made. -/
def dividedEntries : List (Nat × PyString) :=
  [(1, "FLAG".toList), (2, "3".toList)]

/-- A dictionary where the separator `aa` can begin in a name and end in the separator behind
it. -/
def overlappingEntries : List (Nat × PyString) :=
  [(1, "x".toList), (2, "xa".toList), (4, "ay".toList), (8, "y".toList)]

/-- Names that are good and do not contain the separator do not make the texts of all values
different. -/
theorem decodeFlags_not_injective :
    (GoodNames (FlagNames.ofList dividedEntries) ∧
      AvoidedBy "_".toList (FlagNames.ofList dividedEntries) ∧
      @decodeFlags 1 ⟨false, 3#8⟩ (FlagNames.ofList dividedEntries) "_".toList =
        @decodeFlags 1 ⟨false, 8#8⟩ (FlagNames.ofList dividedEntries) "_".toList) ∧
    GoodNames (FlagNames.ofList overlappingEntries) ∧
      AvoidedBy "aa".toList (FlagNames.ofList overlappingEntries) ∧
      @decodeFlags 1 ⟨false, 5#8⟩ (FlagNames.ofList overlappingEntries) "aa".toList =
        @decodeFlags 1 ⟨false, 10#8⟩ (FlagNames.ofList overlappingEntries) "aa".toList := by
  have avoided : forall (separator : PyString) (entries : List (Nat × PyString)),
      (forall entry, entry ∈ entries -> ¬ separator <:+: entry.2) ->
        AvoidedBy separator (FlagNames.ofList entries) :=
    fun _ _ absent _ _ found => absent _ (mem_of_ofList found)
  exact ⟨⟨goodNames_ofList (by decide) (by decide) (by decide), avoided _ _ (by decide), by decide⟩,
    goodNames_ofList (by decide) (by decide) (by decide), avoided _ _ (by decide), by decide⟩

end Util
end CrashPython

import CrashPython.Subsystem.LocklessRingbuffer
import Mathlib.Data.List.Basic

namespace CrashPython
namespace Subsystem

open Library

/-!
# Blocks of the text ring

The positions of text blocks are counted on from lap to lap, and their lowest bits are an
index into the ring.  A block lies between its two positions if these are in the same lap.
A block that would reach the end of the ring lies at the start of the ring instead, and then
its second position is in the next lap.

`get_text` only looks at the first position.
-/

/-- The lap of the ring that a position is in. -/
def lapOf (sizeBits lpos : Nat) : Nat :=
  lpos / 2 ^ sizeBits

namespace PrbDataBlkLPos

variable (sizeBits : Nat) (lpos : PrbDataBlkLPos)

/-- Both positions are in the same lap. -/
def SameLap : Prop :=
  lapOf sizeBits lpos.start = lapOf sizeBits lpos.next

instance : Decidable (lpos.SameLap sizeBits) :=
  inferInstanceAs (Decidable (_ = _))

/-- Where the block lies. -/
def blockIndex : Nat :=
  if lpos.SameLap sizeBits then lpos.start % 2 ^ sizeBits else 0

/-- The positions are those of a block with some text behind the id of its descriptor. -/
structure Holds (longSize length : Nat) : Prop where
  some : 0 < length
  laps : lpos.SameLap sizeBits ∨ lapOf sizeBits lpos.start + 1 = lapOf sizeBits lpos.next
  sameLap : lpos.SameLap sizeBits -> lpos.start + longSize + length ≤ lpos.next
  nextLap : ¬ lpos.SameLap sizeBits -> longSize + length ≤ lpos.next % 2 ^ sizeBits

/-- The block starts where its first position says. -/
def InPlace : Prop :=
  lpos.SameLap sizeBits ∨ lpos.start % 2 ^ sizeBits = 0

variable {sizeBits lpos}

/-- A block lies in the ring. -/
theorem Holds.fits {longSize length : Nat} (holds : lpos.Holds sizeBits longSize length) :
    lpos.blockIndex sizeBits + longSize + length < 2 ^ sizeBits := by
  have positive : 0 < 2 ^ sizeBits := Nat.two_pow_pos _
  simp only [blockIndex]
  by_cases same : lpos.SameLap sizeBits
  · rw [if_pos same]
    have inside := holds.sameLap same
    have start := Nat.div_add_mod lpos.start (2 ^ sizeBits)
    have next := Nat.div_add_mod lpos.next (2 ^ sizeBits)
    have below := Nat.mod_lt lpos.next positive
    have lap : lpos.start / 2 ^ sizeBits = lpos.next / 2 ^ sizeBits := same
    rw [lap] at start
    omega
  · rw [if_neg same]
    have inside := holds.nextLap same
    have below := Nat.mod_lt lpos.next positive
    omega

theorem InPlace.blockIndex (inPlace : lpos.InPlace sizeBits) :
    lpos.blockIndex sizeBits = lpos.start % 2 ^ sizeBits := by
  simp only [PrbDataBlkLPos.blockIndex]
  by_cases same : lpos.SameLap sizeBits
  · rw [if_pos same]
  · rw [if_neg same, inPlace.resolve_left same]

end PrbDataBlkLPos

namespace PrbDataRing

variable {ring : PrbDataRing}

/-- What some bytes of the ring are. -/
theorem bytes_eq_some {index count : Nat} {values : List UInt8} :
    ring.bytes index count = some values <-> values.length = count ∧
      forall k, k < count -> ring.data (index + k) = values[k]? := by
  induction count generalizing index values with
  | zero =>
      constructor
      · intro read
        cases read
        exact ⟨rfl, fun k below => False.elim (Nat.not_lt_zero k below)⟩
      · rintro ⟨empty, _⟩
        rw [List.length_eq_zero_iff.mp empty]
        rfl
  | succ count inductionHypothesis =>
      constructor
      · intro read
        simp only [bytes] at read
        split at read
        next byte rest first later =>
          cases read
          rcases inductionHypothesis.mp later with ⟨size, each⟩
          refine ⟨congrArg Nat.succ size, ?_⟩
          intro k below
          cases k with
          | zero => exact first
          | succ k =>
              have place := each k (Nat.lt_of_succ_lt_succ below)
              rwa [show index + 1 + k = index + (k + 1) by omega] at place
        next => cases read
      · rintro ⟨size, each⟩
        rcases List.exists_cons_of_length_eq_add_one size with ⟨byte, rest, shape⟩
        subst shape
        have later : ring.bytes (index + 1) count = some rest := by
          apply inductionHypothesis.mpr
          refine ⟨Nat.succ.inj size, ?_⟩
          intro k below
          rw [show index + 1 + k = index + (k + 1) by omega]
          exact each (k + 1) (Nat.succ_lt_succ below)
        have first : ring.data index = some byte := each 0 (Nat.succ_pos count)
        simp only [bytes]
        rw [first, later]

/-- Bytes that are the same are read the same. -/
theorem bytes_congr {other : PrbDataRing} {index count : Nat}
    (same : forall place, index ≤ place -> place < index + count ->
      other.data place = ring.data place) : other.bytes index count = ring.bytes index count := by
  induction count generalizing index with
  | zero => rfl
  | succ count inductionHypothesis =>
      have later := @inductionHypothesis (index + 1) fun place above below =>
        same place (by omega) (by omega)
      simp only [bytes]
      rw [same index (Nat.le_refl index) (by omega), later]

/-- Bytes that are all there can be read. -/
theorem bytes_readable {index count : Nat}
    (there : forall place, index ≤ place -> place < index + count -> ring.data place ≠ none) :
    ring.bytes index count ≠ none := by
  induction count generalizing index with
  | zero =>
      intro missing
      cases missing
  | succ count inductionHypothesis =>
      have first := there index (Nat.le_refl index) (by omega)
      have later := @inductionHypothesis (index + 1) fun place above below =>
        there place (by omega) (by omega)
      rcases Option.ne_none_iff_exists'.mp first with ⟨byte, readFirst⟩
      rcases Option.ne_none_iff_exists'.mp later with ⟨rest, readLater⟩
      intro missing
      simp only [bytes] at missing
      rw [readFirst, readLater] at missing
      cases missing

/-- A byte that is not there makes the bytes around it unreadable. -/
theorem bytes_unreadable {index count place : Nat} (missing : ring.data place = none)
    (above : index ≤ place) (below : place < index + count) : ring.bytes index count = none := by
  cases read : ring.bytes index count with
  | none => rfl
  | some values =>
      rcases bytes_eq_some.mp read with ⟨size, each⟩
      have value := each (place - index) (by omega)
      rw [Nat.add_sub_cancel' above, missing, List.getElem?_eq_getElem (by omega)] at value
      cases value

/-- The bytes of the ring, and the same value for each byte behind it. -/
def dataThen (ring : PrbDataRing) (behind : Option UInt8) (index : Nat) : Option UInt8 :=
  if index < 2 ^ ring.sizeBits then ring.data index else behind

end PrbDataRing

namespace PrbRingBuffer

/-- The ring holds the text of a block where the block lies. -/
structure Stores (log : PrbRingBuffer) (lpos : PrbDataBlkLPos) (text : List UInt8) : Prop where
  holds : lpos.Holds log.dataRing.sizeBits log.longSize text.length
  readable : forall index, index < 2 ^ log.dataRing.sizeBits -> log.dataRing.data index ≠ none
  stored : log.dataRing.bytes (lpos.blockIndex log.dataRing.sizeBits + log.longSize) text.length =
    some text

/-- The same log with other bytes in and behind the ring. -/
def withData (log : PrbRingBuffer) (data : Nat -> Option UInt8) : PrbRingBuffer :=
  { log with dataRing := { log.dataRing with data := data } }

/-- `get_text` returns the text of a block, and bytes behind the ring do not matter. -/
structure ReturnsStored (log : PrbRingBuffer) (lpos : PrbDataBlkLPos) (text : List UInt8) :
    Prop where
  returns : forall decoded,
    log.decode text = some decoded -> log.getText lpos text.length = .ok decoded
  inside : forall data,
    (forall index, index < 2 ^ log.dataRing.sizeBits -> data index = log.dataRing.data index) ->
      (log.withData data).getText lpos text.length = log.getText lpos text.length

section

variable {log : PrbRingBuffer} {lpos : PrbDataBlkLPos} {length : Nat}

/-- When `get_text` can not read. -/
theorem getText_unreadable_iff :
    log.getText lpos length = .error .unreadable <->
      log.dataRing.bytes (lpos.start % 2 ^ log.dataRing.sizeBits) log.longSize = none ∨
        log.dataRing.bytes (lpos.start % 2 ^ log.dataRing.sizeBits + log.longSize) length =
          none := by
  simp only [getText]
  cases log.dataRing.bytes (lpos.start % 2 ^ log.dataRing.sizeBits) log.longSize with
  | none => simp
  | some id =>
      cases log.dataRing.bytes
          (lpos.start % 2 ^ log.dataRing.sizeBits + log.longSize) length with
      | none => simp
      | some bytes => cases decodes : log.decode bytes <;> simp [decodes]

/-- Bytes that are not read do not matter. -/
theorem getText_withData {data : Nat -> Option UInt8}
    (same : forall index, lpos.start % 2 ^ log.dataRing.sizeBits ≤ index ->
      index < lpos.start % 2 ^ log.dataRing.sizeBits + log.longSize + length ->
        data index = log.dataRing.data index) :
    (log.withData data).getText lpos length = log.getText lpos length := by
  have sameId : (log.withData data).dataRing.bytes
      (lpos.start % 2 ^ log.dataRing.sizeBits) log.longSize =
        log.dataRing.bytes (lpos.start % 2 ^ log.dataRing.sizeBits) log.longSize :=
    PrbDataRing.bytes_congr fun place above below => same place above (by omega)
  have sameText : (log.withData data).dataRing.bytes
      (lpos.start % 2 ^ log.dataRing.sizeBits + log.longSize) length =
        log.dataRing.bytes (lpos.start % 2 ^ log.dataRing.sizeBits + log.longSize) length :=
    PrbDataRing.bytes_congr fun place above below => same place (by omega) below
  simp only [getText]
  change (let beginIdx := lpos.start % 2 ^ log.dataRing.sizeBits; _) = _
  dsimp only
  rw [← sameId, ← sameText]
  rfl

end

section

variable {log : PrbRingBuffer} {lpos : PrbDataBlkLPos} {text : List UInt8}

/-- The text of a block that starts where its first position says is returned. -/
theorem returnsStored_of_inPlace (stores : log.Stores lpos text)
    (inPlace : lpos.InPlace log.dataRing.sizeBits) : log.ReturnsStored lpos text := by
  have fits := stores.holds.fits
  have stored := stores.stored
  rw [inPlace.blockIndex] at fits stored
  constructor
  · intro decoded decodes
    refine getText_ok_iff.mpr ⟨?_, text, stored, decodes⟩
    apply PrbDataRing.bytes_readable
    intro place _ below
    exact stores.readable place (by omega)
  · intro data same
    apply getText_withData
    intro index _ below
    exact same index (Nat.lt_trans below fits)

/-- A text that is read past the end of the ring depends on the bytes there. -/
theorem not_returnsStored_of_past (stores : log.Stores lpos text)
    (past : 2 ^ log.dataRing.sizeBits <
      lpos.start % 2 ^ log.dataRing.sizeBits + log.longSize + text.length) :
    ¬ log.ReturnsStored lpos text := by
  intro returned
  have below : lpos.start % 2 ^ log.dataRing.sizeBits < 2 ^ log.dataRing.sizeBits :=
    Nat.mod_lt _ (Nat.two_pow_pos _)
  have behind (value : Option UInt8) :
      log.dataRing.dataThen value (2 ^ log.dataRing.sizeBits) = value :=
    if_neg (Nat.lt_irrefl _)
  have same (value : Option UInt8) :
      (log.withData (log.dataRing.dataThen value)).getText lpos text.length =
        log.getText lpos text.length :=
    returned.inside (log.dataRing.dataThen value) fun index inRing => if_pos inRing
  have unreadable : (log.withData (log.dataRing.dataThen none)).getText lpos text.length =
      .error .unreadable := by
    apply getText_unreadable_iff.mpr
    by_cases inText : lpos.start % 2 ^ log.dataRing.sizeBits + log.longSize ≤
        2 ^ log.dataRing.sizeBits
    · exact .inr (PrbDataRing.bytes_unreadable (behind none) inText past)
    · exact .inl (PrbDataRing.bytes_unreadable (behind none) (Nat.le_of_lt below)
        (Nat.lt_of_not_le inText))
  rw [same none, ← same (some 0)] at unreadable
  have readable : forall place, log.dataRing.dataThen (some 0) place ≠ none := by
    intro place
    simp only [PrbDataRing.dataThen]
    by_cases inRing : place < 2 ^ log.dataRing.sizeBits
    · rw [if_pos inRing]
      exact stores.readable place inRing
    · rw [if_neg inRing]
      exact Option.some_ne_none 0
  rcases getText_unreadable_iff.mp unreadable with missing | missing
  · exact PrbDataRing.bytes_readable (fun place _ _ => readable place) missing
  · exact PrbDataRing.bytes_readable (fun place _ _ => readable place) missing

end

/-- A log whose text ring holds zeros, except for one byte. -/
def markedLog (sizeBits longSize mark : Nat) : PrbRingBuffer where
  descRing := {
    countBits := 0
    descs := fun _ => ⟨0, ⟨0, 0⟩⟩
    infos := fun _ => ⟨0, 0, 0, 0, ⟨[], []⟩⟩
    tailId := 0 }
  dataRing := {
    sizeBits
    data := fun index =>
      if index < 2 ^ sizeBits then some (if index = mark then 1 else 0) else none }
  longSize
  decode := fun bytes => some (bytes.map fun byte => Char.ofNat byte.toNat)

section

variable {sizeBits longSize mark : Nat} {lpos : PrbDataBlkLPos} {length : Nat}

/-- A block that the marked byte is not in is filled with zeros. -/
theorem markedLog_stores (holds : lpos.Holds sizeBits longSize length)
    (behind : lpos.blockIndex sizeBits + longSize + length ≤ mark) :
    (markedLog sizeBits longSize mark).Stores lpos (List.replicate length 0) := by
  have fits := holds.fits
  refine ⟨?_, ?_, ?_⟩
  · rw [List.length_replicate]
    exact holds
  · intro index inRing
    change (if index < 2 ^ sizeBits then _ else _) ≠ _
    rw [if_pos (show index < 2 ^ sizeBits from inRing)]
    exact Option.some_ne_none _
  · rw [List.length_replicate]
    refine PrbDataRing.bytes_eq_some.mpr ⟨List.length_replicate, ?_⟩
    intro k below
    change (if lpos.blockIndex sizeBits + longSize + k < 2 ^ sizeBits then
      some (if lpos.blockIndex sizeBits + longSize + k = mark then 1 else 0) else none) = _
    rw [if_pos (by omega), if_neg (by omega), List.getElem?_replicate, if_pos below]

/-- A text with the marked byte at its end is not returned as zeros. -/
theorem markedLog_not_returns (positive : 0 < length)
    (marked : lpos.start % 2 ^ sizeBits + longSize + length = mark + 1) :
    ¬ (markedLog sizeBits longSize mark).ReturnsStored lpos (List.replicate length 0) := by
  intro returned
  have returns := returned.returns _ rfl
  rw [List.length_replicate] at returns
  rcases getText_ok_iff.mp returns with ⟨_, bytes, read, decodes⟩
  rcases PrbDataRing.bytes_eq_some.mp read with ⟨size, each⟩
  have last := each (length - 1) (by omega)
  have zeros := Option.some.inj decodes
  have lastZero := congrArg (fun text : PyString => text[length - 1]?) zeros
  rw [List.getElem?_map, ← last, List.getElem?_map, List.getElem?_replicate,
    if_pos (by omega)] at lastZero
  change Option.map _ (if lpos.start % 2 ^ sizeBits + longSize + (length - 1) < 2 ^ sizeBits then
    some (if lpos.start % 2 ^ sizeBits + longSize + (length - 1) = mark then 1 else 0)
      else none) = _ at lastZero
  by_cases inRing : lpos.start % 2 ^ sizeBits + longSize + (length - 1) < 2 ^ sizeBits
  · rw [if_pos inRing, if_pos (by omega)] at lastZero
    exact absurd lastZero (by decide)
  · rw [if_neg inRing] at lastZero
    cases lastZero

end

/-- The text of every block of a log comes back, whatever the ring holds, just if the block
starts where its first position says.  The text of any other block that would reach the end of
the ring from there is read past the end. -/
theorem getText_returnsStored_iff (sizeBits longSize length : Nat) (lpos : PrbDataBlkLPos)
    (holds : lpos.Holds sizeBits longSize length) :
    ((forall (log : PrbRingBuffer) (text : List UInt8), log.dataRing.sizeBits = sizeBits ->
          log.longSize = longSize -> text.length = length -> log.Stores lpos text ->
            log.ReturnsStored lpos text) <->
        lpos.InPlace sizeBits) ∧
      forall (log : PrbRingBuffer) (text : List UInt8), log.dataRing.sizeBits = sizeBits ->
        log.longSize = longSize -> text.length = length -> log.Stores lpos text ->
          2 ^ sizeBits < lpos.start % 2 ^ sizeBits + longSize + length ->
            ¬ log.ReturnsStored lpos text := by
  refine ⟨⟨?_, ?_⟩, ?_⟩
  · intro returned
    by_contra elsewhere
    rcases not_or.mp elsewhere with ⟨laps, inside⟩
    have atStart : lpos.blockIndex sizeBits = 0 := if_neg laps
    have stores := @markedLog_stores sizeBits longSize
      (lpos.start % 2 ^ sizeBits + longSize + length - 1) lpos length holds (by omega)
    have text := returned _ _ rfl rfl List.length_replicate stores
    exact markedLog_not_returns holds.some (by have some := holds.some; omega) text
  · intro inPlace log text sameBits _ _ stores
    rw [← sameBits] at inPlace
    exact returnsStored_of_inPlace stores inPlace
  · intro log text sameBits sameLong sameLength stores past
    subst sameBits sameLong sameLength
    exact not_returnsStored_of_past stores past

/-- A block in the last bytes of the first lap, and one that lies at the start of the second. -/
theorem getText_returnsStored_iff_wrapped :
    (⟨8, 24⟩ : PrbDataBlkLPos).InPlace 5 ∧ ¬ (⟨24, 48⟩ : PrbDataBlkLPos).InPlace 5 ∧
      ((forall (log : PrbRingBuffer) (text : List UInt8), log.dataRing.sizeBits = 5 ->
          log.longSize = 8 -> text.length = 3 -> log.Stores ⟨8, 24⟩ text ->
            log.ReturnsStored ⟨8, 24⟩ text) ∧
        ¬ forall (log : PrbRingBuffer) (text : List UInt8), log.dataRing.sizeBits = 5 ->
          log.longSize = 8 -> text.length = 3 -> log.Stores ⟨24, 48⟩ text ->
            log.ReturnsStored ⟨24, 48⟩ text) := by
  have first : (⟨8, 24⟩ : PrbDataBlkLPos).InPlace 5 := .inl rfl
  have second : ¬ (⟨24, 48⟩ : PrbDataBlkLPos).InPlace 5 := by
    rintro (laps | start)
    · exact absurd laps (by decide)
    · exact absurd start (by decide)
  refine ⟨first, second, ?_, ?_⟩
  · refine (getText_returnsStored_iff 5 8 3 ⟨8, 24⟩ ⟨by decide, .inl rfl, ?_, ?_⟩).1.mpr first
    · intro _
      decide
    · intro laps
      exact absurd rfl laps
  · intro returned
    refine second ((getText_returnsStored_iff 5 8 3 ⟨24, 48⟩ ⟨by decide, .inr rfl, ?_, ?_⟩).1.mp
      returned)
    · intro laps
      exact absurd laps (by decide)
    · intro _
      decide

/-- The text "hi!" behind the id of its descriptor, at the start of a ring of 32 bytes. -/
def wrappedLog : PrbRingBuffer where
  descRing := (markedLog 5 8 0).descRing
  dataRing := {
    sizeBits := 5
    data := fun index =>
      if index < 32 then (List.replicate 8 0 ++ [104, 105, 33] ++ List.replicate 21 0)[index]?
      else some 63 }
  longSize := 8
  decode := (markedLog 5 8 0).decode

/-- The bytes behind the ring are returned in place of the text. -/
theorem getText_past_end :
    wrappedLog.Stores ⟨24, 48⟩ [104, 105, 33] ∧
      wrappedLog.decode [104, 105, 33] = some "hi!".toList ∧
      wrappedLog.getText ⟨24, 48⟩ 3 = .ok "???".toList ∧
      ¬ wrappedLog.ReturnsStored ⟨24, 48⟩ [104, 105, 33] := by
  have wrong : wrappedLog.getText ⟨24, 48⟩ 3 = .ok "???".toList := by decide
  refine ⟨⟨⟨by decide, .inr rfl, ?_, ?_⟩, by decide, by decide⟩, by decide, wrong, ?_⟩
  · intro laps
    exact absurd laps (by decide)
  · intro _
    decide
  · intro returned
    have right := returned.returns "hi!".toList (by decide)
    rw [show ([104, 105, 33] : List UInt8).length = 3 from rfl, wrong] at right
    exact absurd right (by decide)

end PrbRingBuffer

end Subsystem
end CrashPython

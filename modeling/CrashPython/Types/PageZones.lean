import CrashPython.Library.PackedFields
import CrashPython.Types.Page

namespace CrashPython
namespace Types

open Library

/-!
# The node and the zone in the flags of a page

The highest bits of `flags` hold the number of the node and below it the number of the
zone.  Their widths are found at run time, and either can be zero: a kernel for one node
has no bits for it, and then the whole word is shifted out.  The bits that are left hold
the page flags themselves, `PG_slab` and `PG_lru` among them.

`PageFlags` has the three parts with their bounds.  That they come back from the word is
all that the readers of `Page` rely on.
-/

/-- The `ValueError` of Python for a shift by a negative count. -/
inductive ShiftError where
  | negativeShiftCount
deriving DecidableEq, Repr

/-- A count that Python shifts by. -/
def shiftCount (count : Int) : Except ShiftError Nat :=
  if count < 0 then .error .negativeShiftCount else .ok count.toNat

theorem shiftCount_natCast (count : Nat) : shiftCount count = .ok count := by
  rw [shiftCount, if_neg (Int.not_lt.mpr (Int.natCast_nonneg count)), Int.toNat_natCast]

/-- The attributes of class `Page` together with the two that only the readers of zones
and of LRU pages use.  A width that was not found stays `-1`. -/
structure ZonedPageClass extends PageClass where
  zonesWidth : Int := -1
  pgLru : Nat

namespace Page

variable {memory : PageMemory} (pageClass : ZonedPageClass) (page : Page memory)

/-- `is_lru`. -/
def isLru : Bool :=
  page.flags &&& pageClass.pgLru != 0

/-- `get_zid`. -/
def getZid : Except ShiftError Nat :=
  match shiftCount (pageClass.bitsPerLong - pageClass.nodesWidth - pageClass.zonesWidth) with
  | .error error => .error error
  | .ok shift =>
      match shiftCount pageClass.zonesWidth with
      | .error error => .error error
      | .ok width => .ok (page.flags >>> shift &&& (1 <<< width - 1))

end Page

/-- The three parts of the flags of a page, for a width of node numbers and a width of
zone numbers that fit into a word. -/
structure PageFlags (nodesWidth zonesWidth : Nat) where
  nid : Nat
  zid : Nat
  low : Nat
  widths : nodesWidth + zonesWidth ≤ 64
  nid_lt : nid < 2 ^ nodesWidth
  zid_lt : zid < 2 ^ zonesWidth
  low_lt : low < 2 ^ (64 - nodesWidth - zonesWidth)

namespace PageFlags

variable {nodesWidth zonesWidth : Nat} (fields : PageFlags nodesWidth zonesWidth)

/-- The word: the node, the zone and the page flags. -/
def word : Nat :=
  fields.nid <<< (64 - nodesWidth) ||| fields.zid <<< (64 - nodesWidth - zonesWidth) ||| fields.low

/-- The zone and the page flags below the node. -/
theorem word_eq_below_node :
    fields.word =
      packed fields.nid (64 - nodesWidth)
        (packed fields.zid (64 - nodesWidth - zonesWidth) fields.low) := by
  rw [word, packed, packed, Nat.or_assoc]

/-- The node and the zone above the page flags. -/
theorem word_eq_above_flags :
    fields.word =
      packed (packed fields.nid zonesWidth fields.zid) (64 - nodesWidth - zonesWidth) fields.low := by
  have below : zonesWidth ≤ 64 - nodesWidth := Nat.le_sub_of_add_le' fields.widths
  rw [word_eq_below_node, packed_assoc, Nat.add_sub_cancel' below]

/-- The parts fill a word of 64 bits and no more. -/
theorem word_lt : fields.word < 2 ^ 64 := by
  have total : nodesWidth + zonesWidth + (64 - nodesWidth - zonesWidth) = 64 := by
    have widths := fields.widths
    omega
  have bound := packed_lt (packed_lt fields.nid_lt fields.zid_lt) fields.low_lt
  rw [total] at bound
  rw [word_eq_above_flags]
  exact bound

/-- The three parts of a word. -/
def ofWord (flags : Nat) (bounded : flags < 2 ^ 64) (widths : nodesWidth + zonesWidth ≤ 64) :
    PageFlags nodesWidth zonesWidth where
  nid := flags >>> (64 - nodesWidth)
  zid := flags >>> (64 - nodesWidth - zonesWidth) % 2 ^ zonesWidth
  low := flags % 2 ^ (64 - nodesWidth - zonesWidth)
  widths := widths
  nid_lt := by
    apply shiftRight_lt_of_lt
    rw [Nat.add_sub_cancel' (Nat.le_trans (Nat.le_add_right nodesWidth zonesWidth) widths)]
    exact bounded
  zid_lt := Nat.mod_lt _ (Nat.two_pow_pos zonesWidth)
  low_lt := Nat.mod_lt _ (Nat.two_pow_pos (64 - nodesWidth - zonesWidth))

/-- Every word is made of its parts. -/
theorem word_ofWord (flags : Nat) (bounded : flags < 2 ^ 64)
    (widths : nodesWidth + zonesWidth ≤ 64) :
    (ofWord flags bounded widths : PageFlags nodesWidth zonesWidth).word = flags := by
  have upper :
      flags >>> (64 - nodesWidth) = flags >>> (64 - nodesWidth - zonesWidth) >>> zonesWidth := by
    rw [← Nat.shiftRight_add, Nat.sub_add_cancel (Nat.le_sub_of_add_le' widths)]
  rw [word_eq_above_flags]
  simp only [ofWord]
  rw [upper, packed_parts, packed_parts]

/-- The bits above the node are none. -/
theorem word_shiftRight_node : fields.word >>> (64 - nodesWidth) = fields.nid := by
  have inner := packed_lt fields.zid_lt fields.low_lt
  rw [Nat.add_sub_cancel' (Nat.le_sub_of_add_le' fields.widths)] at inner
  rw [word_eq_below_node, packed_shiftRight inner]

/-- The mask of the zone takes the node away. -/
theorem word_shiftRight_zone :
    fields.word >>> (64 - nodesWidth - zonesWidth) &&& (1 <<< zonesWidth - 1) = fields.zid := by
  rw [word_eq_above_flags, packed_shiftRight fields.low_lt, packed_and_mask fields.zid_lt]

/-- A page flag is a bit of the low part. -/
theorem word_and_bit {bit : Nat} (below : bit < 64 - nodesWidth - zonesWidth) :
    (fields.word &&& 1 <<< bit != 0) = fields.low.testBit bit := by
  rw [and_bit_ne_zero, word_eq_above_flags, packed_testBit_of_lt below]

end PageFlags

/-- What the readers of `Page` find in the flags: the node and the zone, whatever the other
parts are, and the two page flags in the low part alone. -/
theorem flags_decoded {memory : PageMemory} {nodesWidth zonesWidth : Nat}
    (pageClass : ZonedPageClass) (page : Page memory) (fields : PageFlags nodesWidth zonesWidth)
    (bits : pageClass.bitsPerLong = 64) (nodes : pageClass.nodesWidth = nodesWidth)
    (zones : pageClass.zonesWidth = zonesWidth) (flags : page.flags = fields.word) :
    page.getNid pageClass.toPageClass = fields.nid ∧
      page.getZid pageClass = .ok fields.zid ∧
      (forall slab, slab < 64 - nodesWidth - zonesWidth -> pageClass.pgSlab = 1 <<< slab ->
        page.isSlab pageClass.toPageClass = fields.low.testBit slab) ∧
      (forall lru, lru < 64 - nodesWidth - zonesWidth -> pageClass.pgLru = 1 <<< lru ->
        page.isLru pageClass = fields.low.testBit lru) := by
  have shift : (64 : Int) - nodesWidth - zonesWidth = (64 - nodesWidth - zonesWidth : Nat) := by
    have widths := fields.widths
    omega
  refine ⟨?_, ?_, ?_, ?_⟩
  · rw [Page.getNid, flags, bits, nodes, fields.word_shiftRight_node]
  · simp only [Page.getZid, bits, nodes, zones, Nat.cast_ofNat]
    rw [shift, shiftCount_natCast, shiftCount_natCast]
    simp only [flags, fields.word_shiftRight_zone]
  · intro slab below mask
    rw [Page.isSlab, flags, mask, fields.word_and_bit below]
  · intro lru below mask
    rw [Page.isLru, flags, mask, fields.word_and_bit below]

/-- A slab page of node 3 in zone 2. -/
def slabPageFlags : PageFlags 10 3 :=
  ⟨3, 2, 1 <<< 7, by decide, by decide, by decide, by decide⟩

/-- Memory where every page has these flags. -/
def slabPageMemory : PageMemory :=
  fun _ => { flags := .ok slabPageFlags.word }

/-- The class of a kernel with these widths. -/
def tenNodeBits : ZonedPageClass :=
  { nodesWidth := 10, zonesWidth := 3, pgSlab := 1 <<< 7, pgLru := 1 <<< 5 }

/-- The page at address zero of this memory. -/
def slabPage : Page slabPageMemory :=
  ⟨0, 0, slabPageFlags.word, rfl⟩

/-- The readers on this page: node, zone, and that it is a slab page and on no LRU list. -/
theorem flags_decoded_slabPage :
    slabPage.getNid tenNodeBits.toPageClass = 3 ∧
      slabPage.getZid tenNodeBits = .ok 2 ∧
      slabPage.isSlab tenNodeBits.toPageClass = true ∧
      slabPage.isLru tenNodeBits = false := by
  rcases flags_decoded tenNodeBits slabPage slabPageFlags rfl rfl rfl rfl with ⟨nid, zid, slab, lru⟩
  exact ⟨nid, zid, slab 7 (by decide) rfl, lru 5 (by decide) rfl⟩

end Types
end CrashPython

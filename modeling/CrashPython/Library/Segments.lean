import Mathlib.Data.List.Basic
import Mathlib.Data.Int.Notation

namespace CrashPython
namespace Library

/-!
# Runs of marked segments

A stretch of the integer line is cut into consecutive segments, some of which
are marked.  Neighbouring marked segments are joined into one half-open range,
which is closed where an unmarked segment or the end follows.  The ranges found
this way are separated from each other, and they cover exactly the marked
segments.
-/

/-- One segment of the line. -/
structure Segment where
  length : Nat
  marked : Bool
deriving DecidableEq, Repr

/-- The position lies in some half-open range of a list. -/
def Covers (ranges : List (Int × Int)) (position : Int) : Prop :=
  Exists fun range : Int × Int => range ∈ ranges ∧ range.1 ≤ position ∧ position < range.2

/-- Nonempty ranges in increasing order, with a gap between any two of them. -/
structure Separated (ranges : List (Int × Int)) : Prop where
  nonempty : forall range, range ∈ ranges -> range.1 < range.2
  apart : ranges.Pairwise fun earlier later => earlier.2 < later.1

namespace Segments

/-- The position lies in a marked segment. -/
def MarkedAt : Int -> List Segment -> Int -> Prop
  | _, [], _ => False
  | offset, segment :: rest, position =>
      (segment.marked = true ∧ offset ≤ position ∧ position < offset + segment.length) ∨
        MarkedAt (offset + segment.length) rest position

/-- The joined ranges, where a range may have been opened already. -/
def runs : Option Int -> Int -> List Segment -> List (Int × Int)
  | none, _, [] => []
  | some start, offset, [] => [(start, offset)]
  | none, offset, segment :: rest =>
      if segment.marked then runs (some offset) (offset + segment.length) rest
      else runs none (offset + segment.length) rest
  | some start, offset, segment :: rest =>
      if segment.marked then runs (some start) (offset + segment.length) rest
      else (start, offset) :: runs none (offset + segment.length) rest

/-- Marked segments stay marked when more segments follow. -/
theorem MarkedAt.of_prefix {first second : List Segment} (start : first <+: second) {offset position : Int}
    (marked : MarkedAt offset first position) : MarkedAt offset second position := by
  rcases start with ⟨more, rfl⟩
  induction first generalizing offset with
  | nil => exact False.elim marked
  | cons segment rest inductionHypothesis =>
      rcases marked with here | later
      · exact Or.inl here
      · exact Or.inr (inductionHypothesis later)

/-- A range that is open is closed in the end. -/
theorem runs_open_ne_nil (start offset : Int) (segments : List Segment) :
    runs (some start) offset segments ≠ [] := by
  induction segments generalizing offset with
  | nil => exact List.cons_ne_nil _ _
  | cons segment rest inductionHypothesis =>
      rw [runs]
      split
      · exact inductionHypothesis _
      · exact List.cons_ne_nil _ _

/-- There are no ranges exactly if no segment is marked. -/
theorem runs_eq_nil_iff (offset : Int) (segments : List Segment) :
    runs none offset segments = [] <-> forall segment, segment ∈ segments -> segment.marked = false := by
  induction segments generalizing offset with
  | nil => exact iff_of_true rfl fun _ member => False.elim (List.not_mem_nil member)
  | cons segment rest inductionHypothesis =>
      rw [runs, List.forall_mem_cons]
      cases segment.marked with
      | true =>
          rw [if_pos rfl]
          exact iff_of_false (runs_open_ne_nil _ _ _) fun both => Bool.noConfusion both.1
      | false =>
          rw [if_neg Bool.false_ne_true, inductionHypothesis]
          exact (and_iff_right rfl).symm

theorem covers_cons (range : Int × Int) (ranges : List (Int × Int)) (position : Int) :
    Covers (range :: ranges) position <->
      (range.1 ≤ position ∧ position < range.2) ∨ Covers ranges position := by
  constructor
  · rintro ⟨found, member, inside⟩
    rcases List.mem_cons.mp member with same | later
    · subst same
      exact Or.inl inside
    · exact Or.inr ⟨found, later, inside⟩
  · rintro (inside | ⟨found, member, inside⟩)
    · exact ⟨range, List.mem_cons_self, inside⟩
    · exact ⟨found, List.mem_cons_of_mem _ member, inside⟩

/-- The ranges cover the marked segments and the part that was open already. -/
theorem covers_runs (segments : List Segment) (offset position : Int) :
    (Covers (runs none offset segments) position <-> MarkedAt offset segments position) ∧
      forall start, start ≤ offset ->
        (Covers (runs (some start) offset segments) position <->
          (start ≤ position ∧ position < offset) ∨ MarkedAt offset segments position) := by
  induction segments generalizing offset with
  | nil =>
      refine ⟨⟨?_, False.elim⟩, ?_⟩
      · rintro ⟨range, impossible, _⟩
        cases impossible
      · intro start _
        rw [runs, covers_cons]
        constructor
        · rintro (inside | ⟨range, impossible, _⟩)
          · exact Or.inl inside
          · cases impossible
        · rintro (inside | impossible)
          · exact Or.inl inside
          · exact False.elim impossible
  | cons segment rest inductionHypothesis =>
      rcases inductionHypothesis (offset + segment.length) with ⟨closed, opened⟩
      have grows : offset ≤ offset + segment.length := by omega
      constructor
      · rw [runs, MarkedAt]
        cases segment.marked with
        | true =>
            rw [if_pos rfl, opened offset grows]
            simp only [true_and]
        | false =>
            rw [if_neg Bool.false_ne_true, closed]
            simp only [Bool.false_eq_true, false_and, false_or]
      · intro start before
        rw [runs, MarkedAt]
        cases segment.marked with
        | true =>
            rw [if_pos rfl, opened start (Int.le_trans before grows)]
            constructor
            · rintro (⟨low, high⟩ | later)
              · rcases Int.lt_or_le position offset with old | new
                · exact Or.inl ⟨low, old⟩
                · exact Or.inr (Or.inl ⟨rfl, new, high⟩)
              · exact Or.inr (Or.inr later)
            · rintro (⟨low, high⟩ | ⟨_, low, high⟩ | later)
              · exact Or.inl ⟨low, Int.lt_of_lt_of_le high grows⟩
              · exact Or.inl ⟨Int.le_trans before low, high⟩
              · exact Or.inr later
        | false =>
            rw [if_neg Bool.false_ne_true, covers_cons, closed]
            simp only [Bool.false_eq_true, false_and, false_or]

/-- No range starts before the open start, or before the first segment. -/
theorem start_le_of_mem_runs (segments : List Segment) (offset : Int) :
    (forall range, range ∈ runs none offset segments -> offset ≤ range.1) ∧
      forall start, start ≤ offset -> forall range, range ∈ runs (some start) offset segments ->
        start ≤ range.1 := by
  induction segments generalizing offset with
  | nil =>
      constructor
      · intro range impossible
        cases impossible
      · intro start _ range member
        exact Int.le_of_eq (congrArg Prod.fst (List.mem_singleton.mp member)).symm
  | cons segment rest inductionHypothesis =>
      rcases inductionHypothesis (offset + segment.length) with ⟨closed, opened⟩
      have grows : offset ≤ offset + segment.length := by omega
      constructor
      · intro range member
        rw [runs] at member
        split at member
        · exact opened offset grows range member
        · exact Int.le_trans grows (closed range member)
      · intro start before range member
        rw [runs] at member
        split at member
        · exact opened start (Int.le_trans before grows) range member
        · rcases List.mem_cons.mp member with same | later
          · exact Int.le_of_eq (congrArg Prod.fst same).symm
          · exact Int.le_trans before (Int.le_trans grows (closed range later))

/-- With nonempty segments the ranges are separated. -/
theorem separated_runs (segments : List Segment)
    (positive : forall segment, segment ∈ segments -> 0 < segment.length) (offset : Int) :
    Separated (runs none offset segments) ∧
      forall start, start < offset -> Separated (runs (some start) offset segments) := by
  induction segments generalizing offset with
  | nil =>
      constructor
      · refine ⟨?_, List.Pairwise.nil⟩
        intro range impossible
        cases impossible
      · intro start before
        refine ⟨?_, List.pairwise_singleton _ _⟩
        intro range member
        rw [List.mem_singleton.mp member]
        exact before
  | cons segment rest inductionHypothesis =>
      rcases inductionHypothesis (fun later member => positive later (List.mem_cons_of_mem _ member))
        (offset + segment.length) with ⟨closed, opened⟩
      have grows : offset < offset + segment.length := by
        have here := positive segment List.mem_cons_self
        omega
      constructor
      · rw [runs]
        split
        · exact opened offset grows
        · exact closed
      · intro start before
        rw [runs]
        split
        · exact opened start (Int.lt_trans before grows)
        · constructor
          · intro range member
            rcases List.mem_cons.mp member with same | later
            · rw [same]
              exact before
            · exact closed.nonempty range later
          · refine List.pairwise_cons.mpr ⟨?_, closed.apart⟩
            intro later member
            exact Int.lt_of_lt_of_le grows
              ((start_le_of_mem_runs rest (offset + segment.length)).1 later member)

end Segments
end Library
end CrashPython

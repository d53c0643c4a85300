import Mathlib.Data.Finset.Card
import Mathlib.Data.Fintype.Card
import Mathlib.Data.Fintype.Pigeonhole
import Mathlib.Order.Interval.Finset.Nat
import Mathlib.Data.List.Chain
import Mathlib.Data.Nat.Find

namespace CrashPython
namespace Library

/-!
Orbits of a partial successor function.

A chain of pointers is an orbit: the positions reached from a start by
following a successor that may fail to exist.  Three facts about orbits carry
every argument on pointer chains.  An orbit inside a finite set repeats.  An
orbit that repeats is total and periodic from its entry on.  And a hare that
moves twice while a tortoise moves once meets it within one period once the
tortoise is past the entry, wherever the two were started.
-/

variable {Point : Type}

/-- The point reached after a number of successor steps, if it exists. -/
def orbit (successor : Point -> Option Point) (start : Point) : Nat -> Option Point
  | 0 => some start
  | steps + 1 => (orbit successor start steps).bind successor

section Repetition

variable {successor : Point -> Option Point} {start : Point}

theorem orbit_zero : orbit successor start 0 = some start := rfl

theorem orbit_succ_of_some {steps : Nat} {point : Point}
    (here : orbit successor start steps = some point) :
    orbit successor start (steps + 1) = successor point := by
  simp only [orbit, here, Option.bind_some]

/-- A later point exists only if every earlier one does. -/
theorem orbit_isSome_of_le {early late : Nat} (ordered : early ≤ late)
    (reached : (orbit successor start late).isSome) :
    (orbit successor start early).isSome := by
  induction ordered with
  | refl => exact reached
  | @step late _ inductionHypothesis =>
      apply inductionHypothesis
      rcases Option.isSome_iff_exists.mp reached with ⟨point, found⟩
      rcases Option.bind_eq_some_iff.mp found with ⟨previous, before, _⟩
      exact Option.isSome_iff_exists.mpr ⟨previous, before⟩

/-- Equal points have equal futures. -/
theorem orbit_shift {first second : Nat}
    (same : orbit successor start first = orbit successor start second) (steps : Nat) :
    orbit successor start (first + steps) = orbit successor start (second + steps) := by
  induction steps with
  | zero => exact same
  | succ steps inductionHypothesis =>
      change (orbit successor start (first + steps)).bind successor =
        (orbit successor start (second + steps)).bind successor
      rw [inductionHypothesis]

/-- An orbit goes on as that of the point it has reached. -/
theorem orbit_from {first : Nat} {point : Point} (here : orbit successor start first = some point)
    (steps : Nat) : orbit successor start (first + steps) = orbit successor point steps := by
  induction steps with
  | zero => exact here
  | succ steps inductionHypothesis =>
      change (orbit successor start (first + steps)).bind successor = _
      rw [inductionHypothesis]
      rfl

/-- From its entry on, a repeating orbit is periodic. -/
theorem orbit_period {entry period : Nat}
    (repeats : orbit successor start entry = orbit successor start (entry + period))
    {steps : Nat} (entered : entry ≤ steps) (rounds : Nat) :
    orbit successor start (steps + period * rounds) = orbit successor start steps := by
  induction rounds with
  | zero => rw [Nat.mul_zero, Nat.add_zero]
  | succ rounds inductionHypothesis =>
      have shifted := orbit_shift repeats (steps - entry + period * rounds)
      calc
        orbit successor start (steps + period * (rounds + 1)) =
            orbit successor start (entry + period + (steps - entry + period * rounds)) := by
              congr 1
              rw [Nat.mul_succ]
              omega
        _ = orbit successor start (entry + (steps - entry + period * rounds)) := shifted.symm
        _ = orbit successor start (steps + period * rounds) := by
              congr 1
              omega
        _ = orbit successor start steps := inductionHypothesis

/-- A repeating orbit never ends. -/
theorem orbit_total_of_repeat {entry period : Nat} (positive : 0 < period)
    (repeats : orbit successor start entry = orbit successor start (entry + period))
    (reached : (orbit successor start entry).isSome) (steps : Nat) :
    (orbit successor start steps).isSome := by
  have far : (orbit successor start (entry + period * steps)).isSome := by
    rw [orbit_period repeats (Nat.le_refl entry)]
    exact reached
  refine orbit_isSome_of_le ?_ far
  exact Nat.le_trans (Nat.le_mul_of_pos_left steps positive) (Nat.le_add_left _ _)

/-- A point met once after the entry is met again within every period. -/
theorem orbit_mem_period {entry period : Nat} (positive : 0 < period)
    (repeats : orbit successor start entry = orbit successor start (entry + period))
    {steps : Nat} (entered : entry ≤ steps) :
    Exists fun within : Nat => entry ≤ within ∧ within < entry + period ∧
      orbit successor start within = orbit successor start steps := by
  have residue := Nat.mod_lt (steps - entry) positive
  have division := Nat.mod_add_div (steps - entry) period
  refine ⟨entry + (steps - entry) % period, Nat.le_add_right _ _,
    Nat.add_lt_add_left residue entry, ?_⟩
  have around := orbit_period repeats
    (Nat.le_add_right entry ((steps - entry) % period)) ((steps - entry) / period)
  rw [← around]
  congr 1
  omega

/-- The first repetition has an entry whose two predecessors differ, unless
the entry is the first point considered. -/
theorem exists_first_repeat {low first second : Nat} (above : low ≤ first)
    (ordered : first < second)
    (same : orbit successor start first = orbit successor start second) :
    Exists fun entry : Nat => Exists fun period : Nat =>
      low ≤ entry ∧ 0 < period ∧ entry + period ≤ second ∧
        orbit successor start entry = orbit successor start (entry + period) ∧
        (low < entry -> orbit successor start (entry - 1) ≠ orbit successor start (entry - 1 + period)) := by
  classical
  let Repeats (entry : Nat) : Prop := low ≤ entry ∧ Exists fun period : Nat =>
    0 < period ∧ entry + period ≤ second ∧
      orbit successor start entry = orbit successor start (entry + period)
  have possible : Exists Repeats := by
    refine ⟨first, above, second - first, Nat.sub_pos_of_lt ordered, ?_, ?_⟩
    · rw [Nat.add_sub_cancel' (Nat.le_of_lt ordered)]
    · rw [Nat.add_sub_cancel' (Nat.le_of_lt ordered)]
      exact same
  rcases Nat.find_spec possible with ⟨atLeast, period, positive, bounded, repeats⟩
  refine ⟨Nat.find possible, period, atLeast, positive, bounded, repeats, ?_⟩
  intro inner earlier
  have minimal := Nat.find_min possible (Nat.sub_lt (Nat.lt_of_le_of_lt (Nat.zero_le _) inner) Nat.one_pos)
  exact minimal ⟨Nat.le_sub_one_of_lt inner, period, positive, by omega, earlier⟩

/-- Inside a finite set, more positions than points force a repetition. -/
theorem exists_repeat_of_finite [DecidableEq Point] (points : Finset Point) {low : Nat}
    (confined : forall steps, low ≤ steps -> steps ≤ low + points.card ->
      Exists fun point : Point => point ∈ points ∧ orbit successor start steps = some point) :
    Exists fun first : Nat => Exists fun second : Nat =>
      low ≤ first ∧ first < second ∧ second ≤ low + points.card ∧
        orbit successor start first = orbit successor start second := by
  let positions := Finset.Icc low (low + points.card)
  let images := points.image (some : Point -> Option Point)
  have crowded : images.card < positions.card := by
    have size : positions.card = points.card + 1 := by
      simp only [positions, Nat.card_Icc]
      omega
    rw [size]
    exact Nat.lt_succ_of_le Finset.card_image_le
  have lands : forall steps, steps ∈ positions -> orbit successor start steps ∈ images := by
    intro steps member
    have bounds := Finset.mem_Icc.mp member
    rcases confined steps bounds.1 bounds.2 with ⟨point, inside, here⟩
    exact Finset.mem_image.mpr ⟨point, inside, here.symm⟩
  rcases Finset.exists_ne_map_eq_of_card_lt_of_maps_to crowded lands with
    ⟨left, leftMember, right, rightMember, different, same⟩
  have leftBounds := Finset.mem_Icc.mp leftMember
  have rightBounds := Finset.mem_Icc.mp rightMember
  rcases Nat.lt_or_gt_of_ne different with before | after
  · exact ⟨left, right, leftBounds.1, before, rightBounds.2, same⟩
  · exact ⟨right, left, rightBounds.1, after, leftBounds.2, same.symm⟩

/-- The tortoise and the hare meet.  The tortoise stands `time` steps after
the common origin, the hare one step ahead of twice that.  The origin may lie
before, at or after the entry of the cycle. -/
theorem exists_meeting {entry period : Nat} (positive : 0 < period)
    (repeats : orbit successor start entry = orbit successor start (entry + period))
    (origin : Nat) :
    Exists fun time : Nat => origin + time < max origin entry + period ∧
      orbit successor start (origin + time) = orbit successor start (origin + 2 * time + 1) := by
  let rounds := (entry - origin) / period + 1
  have division := Nat.div_add_mod (entry - origin) period
  have residue := Nat.mod_lt (entry - origin) positive
  have product : period * rounds = period * ((entry - origin) / period) + period := by
    rw [Nat.mul_succ]
  have around := orbit_period repeats (show entry ≤ origin + (period * rounds - 1) by omega) rounds
  refine ⟨period * rounds - 1, ?_, ?_⟩
  · omega
  · rw [← around]
    congr 1
    omega

end Repetition

section Return

variable {successor : Point -> Option Point} {start : Point}

/-- The orbit comes back to its start for the first time after `length`
steps. -/
structure FirstReturn (successor : Point -> Option Point) (start : Point) (length : Nat) : Prop where
  positive : 0 < length
  returns : orbit successor start length = some start
  first : forall steps, 0 < steps -> steps < length -> orbit successor start steps ≠ some start

namespace FirstReturn

theorem repeats {length : Nat} (closed : FirstReturn successor start length) :
    orbit successor start 0 = orbit successor start (0 + length) := by
  rw [Nat.zero_add, closed.returns, orbit_zero]

theorem total {length : Nat} (closed : FirstReturn successor start length) (steps : Nat) :
    (orbit successor start steps).isSome :=
  orbit_total_of_repeat closed.positive closed.repeats rfl steps

/-- Two positions of a closed orbit show the same point only if they are a
whole number of rounds apart. -/
theorem dvd_of_eq {length : Nat} (closed : FirstReturn successor start length)
    {first second : Nat} (ordered : first ≤ second)
    (same : orbit successor start first = orbit successor start second) :
    length ∣ second - first := by
  have positive := closed.positive
  have division := Nat.div_add_mod first length
  have residue := Nat.mod_lt first positive
  have forward : orbit successor start (first + (length - first % length)) = some start := by
    have around := orbit_period closed.repeats (Nat.zero_le 0) (first / length + 1)
    rw [orbit_zero] at around
    rw [← around]
    congr 1
    rw [Nat.mul_succ]
    omega
  have shifted := orbit_shift same (length - first % length)
  rw [forward] at shifted
  let distance := second - first
  have back : orbit successor start (distance % length) = some start := by
    have around := orbit_period closed.repeats (Nat.zero_le (distance % length))
      (distance / length + (first / length + 1))
    rw [← around, shifted]
    congr 1
    have split := Nat.div_add_mod distance length
    rw [Nat.mul_add, Nat.mul_succ]
    omega
  by_cases zero : distance % length = 0
  · exact Nat.dvd_of_mod_eq_zero zero
  · exact False.elim (closed.first (distance % length) (Nat.pos_of_ne_zero zero)
      (Nat.mod_lt _ positive) back)

end FirstReturn

/-- An orbit that meets a closed orbit reaches the start of it. -/
theorem FirstReturn.reached {length : Nat} (closed : FirstReturn successor start length)
    {other point : Point} {first second : Nat} (here : orbit successor other first = some point)
    (there : orbit successor start second = some point) :
    Exists fun steps : Nat => orbit successor other steps = some start := by
  have further : second ≤ length * second := Nat.le_mul_of_pos_left second closed.positive
  have around := orbit_period closed.repeats (Nat.zero_le 0) second
  rw [Nat.zero_add, orbit_zero, ← Nat.add_sub_cancel' further, orbit_from there] at around
  exact ⟨first + (length * second - second), (orbit_from here _).trans around⟩

/-- An orbit that comes back at all comes back for a first time. -/
theorem exists_firstReturn {length : Nat} (positive : 0 < length)
    (returns : orbit successor start length = some start) :
    Exists fun least : Nat => least ≤ length ∧ FirstReturn successor start least := by
  classical
  have possible : Exists fun steps : Nat => 0 < steps ∧ orbit successor start steps = some start :=
    ⟨length, positive, returns⟩
  have found := Nat.find_spec possible
  refine ⟨Nat.find possible, Nat.find_min' possible ⟨positive, returns⟩, found.1, found.2, ?_⟩
  intro steps above below back
  exact Nat.find_min possible below ⟨above, back⟩

end Return

/-! ## Routes -/

/-- Each point of the list is followed by its successor. -/
def Route (successor : Point -> Option Point) (points : List Point) : Prop :=
  points.IsChain fun point next => successor point = some next

instance [DecidableEq Point] (successor : Point -> Option Point) (points : List Point) :
    Decidable (Route successor points) :=
  inferInstanceAs (Decidable (points.IsChain fun point next => successor point = some next))

/-- A list is a route if it shows the points of an orbit. -/
theorem route_iff {successor : Point -> Option Point} {start : Point} {points : List Point} :
    Route successor (start :: points) <-> forall index, index ≤ points.length ->
      orbit successor start index = (start :: points)[index]? := by
  simp only [Route]
  rw [List.isChain_iff_getElem]
  constructor
  · intro linked index
    induction index with
    | zero => exact fun _ => rfl
    | succ index inductionHypothesis =>
        intro inside
        have here := inductionHypothesis (Nat.le_of_succ_le inside)
        have bounded : index < (start :: points).length := Nat.lt_succ_of_lt inside
        rw [List.getElem?_eq_getElem bounded] at here
        rw [orbit_succ_of_some here, linked index (Nat.succ_lt_succ inside),
          List.getElem?_eq_getElem (Nat.succ_lt_succ inside)]
  · intro visits index inside
    have inner : index + 1 ≤ points.length := Nat.le_of_succ_le_succ inside
    have here := visits index (Nat.le_of_succ_le inner)
    have next := visits (index + 1) inner
    rw [List.getElem?_eq_getElem (Nat.lt_of_succ_lt inside)] at here
    rw [orbit_succ_of_some here, List.getElem?_eq_getElem inside] at next
    exact next

end Library
end CrashPython

import CrashPython.Util.DelayedCollection
import Mathlib.Data.List.Infix
import Mathlib.Data.List.Induction

namespace CrashPython
namespace Cache

open Library Util

/-!
# The uptime

The class `CrashKernelCache` of `crash/cache/syscache.py` computes the uptime from the
jiffies and keeps it.  `set_jiffies` is a class method and asks for a new computation by the
class attribute `_reset_uptime`.  The property `uptime` sets `_reset_uptime` back on the
object, and from then on the attribute of the object hides the one of the class.
-/

/-- The number of seconds fits a `timedelta`, whose days have nine digits at most. -/
def FitsTimedelta (seconds : Int) : Prop :=
  -999999999 ≤ seconds / 86400 ∧ seconds / 86400 ≤ 999999999

instance (seconds : Int) : Decidable (FitsTimedelta seconds) :=
  inferInstanceAs (Decidable (_ ∧ _))

/-- A `timedelta` of whole seconds. -/
structure Timedelta where
  seconds : Int
  fits : FitsTimedelta seconds

/-- The exceptions of a read. -/
inductive UptimeError where
  | delayed (name : PyString)
  | overflow
deriving DecidableEq, Repr

namespace Timedelta

/-- `timedelta(seconds=...)`. -/
def ofSeconds (seconds : Int) : Except UptimeError Timedelta :=
  if fits : FitsTimedelta seconds then .ok ⟨seconds, fits⟩ else .error .overflow

/-- `==` with an integer.  For Python a `timedelta` is no number, and so never equal to one. -/
def eqInt (_ : Timedelta) (_ : Int) : Bool :=
  false

end Timedelta

/-- The attributes of the class. -/
structure KernelClass where
  adjustJiffies : Bool
  resetUptime : Bool := true
  jiffiesDv : DelayedValue Int := { guarded := true }
deriving DecidableEq, Repr

/-- The attributes of an object.  The first two never change, and `_reset_uptime` is no
attribute of the object at first. -/
structure CrashKernelCache where
  hz : Nat
  hz_pos : 0 < hz
  uptime : Timedelta := ⟨0, by decide⟩
  resetUptime : Option Bool := none

/-- The class and an object of it. -/
structure KernelState where
  cls : KernelClass
  object : CrashKernelCache

namespace KernelState

/-- `_reset_uptime`, looked up on the object and then on the class. -/
def resetUptime (state : KernelState) : Bool :=
  state.object.resetUptime.getD state.cls.resetUptime

/-- The property `jiffies`. -/
def jiffies (state : KernelState) : Except UptimeError Int :=
  match state.cls.jiffiesDv.value with
  | none => .error (.delayed "jiffies".toList)
  | some value => .ok value

/-- `_adjusted_jiffies`, for a value of the jiffies. -/
def adjusted (adjustJiffies : Bool) (hz : Nat) (jiffies : Int) : Int :=
  if adjustJiffies then jiffies - (0x100000000 - 300 * hz) else jiffies

/-- `_adjusted_jiffies`. -/
def adjustedJiffies (state : KernelState) : Except UptimeError Int :=
  state.jiffies.map (adjusted state.cls.adjustJiffies state.object.hz)

/-- The property `uptime`. -/
def uptime (state : KernelState) : Except UptimeError Timedelta × KernelState :=
  if state.object.uptime.eqInt 0 || state.resetUptime then
    match state.adjustedJiffies with
    | .error error => (.error error, state)
    | .ok jiffies =>
        match Timedelta.ofSeconds (jiffies / state.object.hz) with
        | .error error => (.error error, state)
        | .ok uptime =>
            (.ok uptime,
              { state with object := { state.object with uptime := uptime, resetUptime := some false } })
  else (.ok state.object.uptime, state)

/-- `set_jiffies`. -/
def setJiffies (value : Int) (state : KernelState) : KernelState :=
  let emptied : DelayedValue Int := { state.cls.jiffiesDv with value := none }
  { state with cls :=
    { state.cls with jiffiesDv := emptied.callback (some value), resetUptime := true } }

end KernelState

/-- What is done with a cache. -/
inductive KernelOp where
  | setJiffies (value : Int)
  | uptime
deriving DecidableEq, Repr

/-- One call. -/
def KernelOp.step (state : KernelState) : KernelOp -> KernelState
  | .setJiffies value => state.setJiffies value
  | .uptime => state.uptime.2

/-- Some calls, one after another. -/
def runOps (ops : List KernelOp) (state : KernelState) : KernelState :=
  ops.foldl KernelOp.step state

/-- The value that was set last. -/
def lastSet (ops : List KernelOp) : Option Int :=
  ops.foldl (fun last op =>
    match op with
    | .setJiffies value => some value
    | .uptime => last) none

/-- A class and an object that have not been used. -/
def freshState (adjustJiffies : Bool) (hz : Nat) (hz_pos : 0 < hz) : KernelState :=
  ⟨{ adjustJiffies := adjustJiffies }, { hz := hz, hz_pos := hz_pos }⟩

/-- The uptime that a value of the jiffies stands for: whole seconds, rounded down. -/
def uptimeSeconds (adjustJiffies : Bool) (hz : Nat) (jiffies : Int) : Int :=
  KernelState.adjusted adjustJiffies hz jiffies / hz

/-- At this place in the calls there is a read, and the jiffies have been set to this value
before, and not to another since. -/
def ReadAt (ops before : List KernelOp) (value : Int) : Prop :=
  (Exists fun rest : List KernelOp => ops = before ++ .uptime :: rest) ∧ lastSet before = some value

/-- Every read after a value has been set answers with the uptime of the last value. -/
def ReadsCurrent (adjustJiffies : Bool) (hz : Nat) (hz_pos : 0 < hz) (ops : List KernelOp) : Prop :=
  forall (before : List KernelOp) (value : Int), ReadAt ops before value ->
    (runOps before (freshState adjustJiffies hz hz_pos)).uptime.1.map Timedelta.seconds =
      .ok (uptimeSeconds adjustJiffies hz value)

/-- All reads after a value has been set come at a time when the last value stands for the
same uptime, and this uptime fits a `timedelta`. -/
def OneUptime (adjustJiffies : Bool) (hz : Nat) (ops : List KernelOp) : Prop :=
  Exists fun seconds : Int => FitsTimedelta seconds ∧
    forall (before : List KernelOp) (value : Int), ReadAt ops before value ->
      uptimeSeconds adjustJiffies hz value = seconds

theorem runOps_append (first second : List KernelOp) (state : KernelState) :
    runOps (first ++ second) state = runOps second (runOps first state) :=
  List.foldl_append

theorem lastSet_append (ops : List KernelOp) (op : KernelOp) :
    lastSet (ops ++ [op]) =
      match op with
      | .setJiffies value => some value
      | .uptime => lastSet ops := by
  rw [lastSet, List.foldl_append]
  rfl

section Reads

variable {state : KernelState} {value : Int}

theorem adjustedJiffies_set (set : state.cls.jiffiesDv.value = some value) :
    state.adjustedJiffies =
      .ok (KernelState.adjusted state.cls.adjustJiffies state.object.hz value) := by
  rw [KernelState.adjustedJiffies, KernelState.jiffies, set]
  rfl

/-- A read that computes the uptime. -/
theorem uptime_computed (reset : state.resetUptime = true)
    (set : state.cls.jiffiesDv.value = some value)
    (fits : FitsTimedelta (uptimeSeconds state.cls.adjustJiffies state.object.hz value)) :
    state.uptime = (.ok ⟨_, fits⟩,
      { state with object := { state.object with uptime := ⟨_, fits⟩, resetUptime := some false } }) := by
  simp only [uptimeSeconds] at fits
  rw [KernelState.uptime, reset, Bool.or_true, if_pos rfl, adjustedJiffies_set set]
  dsimp only
  rw [Timedelta.ofSeconds, dif_pos fits]
  rfl

/-- A read with an uptime that does not fit a `timedelta`. -/
theorem uptime_overflows (reset : state.resetUptime = true)
    (set : state.cls.jiffiesDv.value = some value)
    (large : ¬ FitsTimedelta (uptimeSeconds state.cls.adjustJiffies state.object.hz value)) :
    state.uptime = (.error .overflow, state) := by
  simp only [uptimeSeconds] at large
  rw [KernelState.uptime, reset, Bool.or_true, if_pos rfl, adjustedJiffies_set set]
  dsimp only
  rw [Timedelta.ofSeconds, dif_neg large]

/-- A read before a value has been set. -/
theorem uptime_unset (reset : state.resetUptime = true) (unset : state.cls.jiffiesDv.value = none) :
    state.uptime = (.error (.delayed "jiffies".toList), state) := by
  rw [KernelState.uptime, reset, Bool.or_true, if_pos rfl, KernelState.adjustedJiffies,
    KernelState.jiffies, unset]
  rfl

/-- A read of an uptime that is kept. -/
theorem uptime_kept (kept : state.object.resetUptime = some false) :
    state.uptime = (.ok state.object.uptime, state) := by
  rw [KernelState.uptime, KernelState.resetUptime, kept]
  rfl

/-- Once an uptime is kept, no call changes the object. -/
theorem runOps_kept (ops : List KernelOp) (kept : state.object.resetUptime = some false) :
    (runOps ops state).object = state.object := by
  induction ops generalizing state with
  | nil => rfl
  | cons op ops inductionHypothesis =>
      have same : (op.step state).object = state.object := by
        cases op with
        | setJiffies value => rfl
        | uptime => rw [KernelOp.step, uptime_kept kept]
      have later := inductionHypothesis (same ▸ kept)
      exact later.trans same

end Reads

/-- What the class and the object hold after some calls. -/
structure Tracks (adjustJiffies : Bool) (hz : Nat) (ops : List KernelOp) (state : KernelState) : Prop where
  jiffies : state.cls.jiffiesDv.value = lastSet ops
  reset : state.cls.resetUptime = true
  adjust : state.cls.adjustJiffies = adjustJiffies
  hertz : state.object.hz = hz
  own : state.object.resetUptime = none ∨ state.object.resetUptime = some false

section Runs

variable {adjustJiffies : Bool} {hz : Nat} {hz_pos : 0 < hz} {ops : List KernelOp} {state : KernelState}

theorem Tracks.resetUptime (tracks : Tracks adjustJiffies hz ops state)
    (fresh : state.object.resetUptime = none) : state.resetUptime = true := by
  rw [KernelState.resetUptime, fresh]
  exact tracks.reset

/-- A read leaves the class as it is, and the object keeps an uptime or is as it was. -/
theorem Tracks.read (tracks : Tracks adjustJiffies hz ops state) :
    state.uptime.2.cls = state.cls ∧ state.uptime.2.object.hz = state.object.hz ∧
      (state.uptime.2.object.resetUptime = none ∨ state.uptime.2.object.resetUptime = some false) := by
  rcases tracks.own with fresh | kept
  · have reset := tracks.resetUptime fresh
    cases set : state.cls.jiffiesDv.value with
    | none =>
        rw [uptime_unset reset set]
        exact ⟨rfl, rfl, Or.inl fresh⟩
    | some value =>
        by_cases fits : FitsTimedelta (uptimeSeconds state.cls.adjustJiffies state.object.hz value)
        · rw [uptime_computed reset set fits]
          exact ⟨rfl, rfl, Or.inr rfl⟩
        · rw [uptime_overflows reset set fits]
          exact ⟨rfl, rfl, Or.inl fresh⟩
  · rw [uptime_kept kept]
    exact ⟨rfl, rfl, Or.inr kept⟩

theorem Tracks.step (tracks : Tracks adjustJiffies hz ops state) (op : KernelOp) :
    Tracks adjustJiffies hz (ops ++ [op]) (op.step state) := by
  cases op with
  | setJiffies value =>
      refine ⟨?_, rfl, tracks.adjust, tracks.hertz, tracks.own⟩
      rw [lastSet_append]
      change (DelayedValue.callback (some value) _).value = some value
      rw [DelayedValue.callback, Option.isSome_none, Bool.and_false]
      rfl
  | uptime =>
      rcases tracks.read with ⟨cls, hertz, own⟩
      refine ⟨?_, ?_, ?_, ?_, own⟩
      · rw [lastSet_append]
        change state.uptime.2.cls.jiffiesDv.value = lastSet ops
        rw [cls]
        exact tracks.jiffies
      · change state.uptime.2.cls.resetUptime = true
        rw [cls]
        exact tracks.reset
      · change state.uptime.2.cls.adjustJiffies = adjustJiffies
        rw [cls]
        exact tracks.adjust
      · exact hertz.trans tracks.hertz

/-- After any calls. -/
theorem runOps_tracks (adjustJiffies : Bool) (hz_pos : 0 < hz) (ops : List KernelOp) :
    Tracks adjustJiffies hz ops (runOps ops (freshState adjustJiffies hz hz_pos)) := by
  induction ops using List.reverseRecOn with
  | nil => exact ⟨rfl, rfl, rfl, rfl, Or.inl rfl⟩
  | append_singleton ops op inductionHypothesis =>
      rw [runOps_append]
      exact inductionHypothesis.step op

/-- With one uptime for all reads, an uptime that is kept is this one. -/
theorem runOps_keeps {seconds : Int}
    (one : forall before value, ReadAt ops before value -> uptimeSeconds adjustJiffies hz value = seconds)
    (fits : FitsTimedelta seconds) (before : List KernelOp) (start : before <+: ops) :
    (runOps before (freshState adjustJiffies hz hz_pos)).object.resetUptime = some false ->
      (runOps before (freshState adjustJiffies hz hz_pos)).object.uptime.seconds = seconds := by
  induction before using List.reverseRecOn with
  | nil => intro impossible; cases impossible
  | append_singleton before op inductionHypothesis =>
      have earlier := inductionHypothesis ((List.prefix_append before [op]).trans start)
      have tracks := runOps_tracks adjustJiffies hz_pos before
      rw [runOps_append]
      generalize runOps before (freshState adjustJiffies hz hz_pos) = state at earlier tracks ⊢
      cases op with
      | setJiffies value => exact earlier
      | uptime =>
          change state.uptime.2.object.resetUptime = some false -> state.uptime.2.object.uptime.seconds = seconds
          rcases tracks.own with fresh | kept
          · have reset := tracks.resetUptime fresh
            cases set : state.cls.jiffiesDv.value with
            | none =>
                rw [uptime_unset reset set]
                exact earlier
            | some value =>
                have last : lastSet before = some value := tracks.jiffies.symm.trans set
                rcases start with ⟨rest, same⟩
                rw [List.append_assoc] at same
                have here := one before value ⟨⟨rest, same.symm⟩, last⟩
                rw [← tracks.adjust, ← tracks.hertz] at here
                rw [uptime_computed reset set (here ▸ fits)]
                exact fun _ => here
          · rw [uptime_kept kept]
            exact earlier

/-- What a read answers after a value has been set: the uptime that is kept, or that of the last
value. -/
theorem read_answer {before : List KernelOp} {value : Int} (last : lastSet before = some value)
    {uptime : Timedelta}
    (answered : (runOps before (freshState adjustJiffies hz hz_pos)).uptime.1 = .ok uptime) :
    (runOps (before ++ [.uptime]) (freshState adjustJiffies hz hz_pos)).object.resetUptime = some false ∧
      (runOps (before ++ [.uptime]) (freshState adjustJiffies hz hz_pos)).object.uptime = uptime := by
  have tracks := runOps_tracks adjustJiffies hz_pos before
  rw [runOps_append]
  generalize runOps before (freshState adjustJiffies hz hz_pos) = state at answered tracks ⊢
  change state.uptime.2.object.resetUptime = some false ∧ state.uptime.2.object.uptime = uptime
  rcases tracks.own with fresh | kept
  · have reset := tracks.resetUptime fresh
    have set : state.cls.jiffiesDv.value = some value := tracks.jiffies.trans last
    by_cases fits : FitsTimedelta (uptimeSeconds state.cls.adjustJiffies state.object.hz value)
    · rw [uptime_computed reset set fits] at answered ⊢
      exact ⟨rfl, Except.ok.inj answered⟩
    · rw [uptime_overflows reset set fits] at answered
      cases answered
  · rw [uptime_kept kept] at answered ⊢
    exact ⟨kept, Except.ok.inj answered⟩

/-- A later read answers what an earlier one has answered. -/
theorem read_again {before later : List KernelOp} {value : Int} (last : lastSet before = some value)
    (order : before ++ [.uptime] <+: later) {uptime : Timedelta}
    (answered : (runOps before (freshState adjustJiffies hz hz_pos)).uptime.1 = .ok uptime) :
    (runOps later (freshState adjustJiffies hz hz_pos)).uptime.1 = .ok uptime := by
  rcases read_answer last answered with ⟨kept, same⟩
  rcases order with ⟨rest, rfl⟩
  rw [runOps_append]
  generalize runOps (before ++ [.uptime]) (freshState adjustJiffies hz hz_pos) = state at kept same ⊢
  have object := runOps_kept rest kept
  rw [uptime_kept (object ▸ kept), object, same]

theorem ok_of_map_ok {Error One Two : Type} {result : Except Error One} {change : One -> Two} {two : Two}
    (mapped : result.map change = .ok two) : Exists fun one : One => result = .ok one ∧ change one = two := by
  cases result with
  | error error => cases mapped
  | ok one => exact ⟨one, rfl, Except.ok.inj mapped⟩

/-- Two reads that are both current are reads of one uptime. -/
theorem readsCurrent_agree (current : ReadsCurrent adjustJiffies hz hz_pos ops)
    {before later : List KernelOp} {value other : Int} (first : ReadAt ops before value)
    (second : ReadAt ops later other) (order : before <+: later) :
    uptimeSeconds adjustJiffies hz value = uptimeSeconds adjustJiffies hz other := by
  rcases ok_of_map_ok (current before value first) with ⟨uptime, answered, seconds⟩
  rcases ok_of_map_ok (current later other second) with ⟨uptimeLater, answeredLater, secondsLater⟩
  rcases order with ⟨between, rfl⟩
  cases between with
  | nil =>
      rw [List.append_nil] at second
      rw [Option.some.inj (first.2.symm.trans second.2)]
  | cons op between =>
      rcases first.1 with ⟨rest, shape⟩
      rcases second.1 with ⟨restLater, shapeLater⟩
      have isRead : op = .uptime := by
        rw [shape, List.append_assoc, List.append_cancel_left_eq] at shapeLater
        exact (List.cons.inj shapeLater).1.symm
      subst isRead
      have again := read_again first.2 ⟨between, List.append_assoc before [.uptime] between⟩ answered
      rw [← seconds, ← secondsLater, Except.ok.inj (again.symm.trans answeredLater)]

/-- All reads are current just if they are reads of one uptime, which fits a `timedelta`.  The
first of them that computes an uptime is the last one that does. -/
theorem readsCurrent_iff (adjustJiffies : Bool) (hz : Nat) (hz_pos : 0 < hz) (ops : List KernelOp) :
    ReadsCurrent adjustJiffies hz hz_pos ops <-> OneUptime adjustJiffies hz ops := by
  constructor
  · intro current
    by_cases some : Exists fun before => Exists fun value => ReadAt ops before value
    · rcases some with ⟨before, value, read⟩
      rcases ok_of_map_ok (current before value read) with ⟨uptime, _, seconds⟩
      refine ⟨uptimeSeconds adjustJiffies hz value, seconds ▸ uptime.fits, ?_⟩
      intro other otherValue otherRead
      rcases read.1 with ⟨rest, shape⟩
      rcases otherRead.1 with ⟨otherRest, otherShape⟩
      have start : before <+: ops := ⟨_, shape.symm⟩
      have otherStart : other <+: ops := ⟨_, otherShape.symm⟩
      rcases List.prefix_or_prefix_of_prefix start otherStart with order | order
      · exact (readsCurrent_agree current read otherRead order).symm
      · exact readsCurrent_agree current otherRead read order
    · exact ⟨0, by decide, fun before value read => False.elim (some ⟨before, value, read⟩)⟩
  · rintro ⟨seconds, fits, one⟩ before value read
    have here := one before value read
    have tracks := runOps_tracks adjustJiffies hz_pos before
    rcases read.1 with ⟨rest, shape⟩
    have keeps := @runOps_keeps adjustJiffies hz hz_pos ops seconds one fits before ⟨_, shape.symm⟩
    generalize runOps before (freshState adjustJiffies hz hz_pos) = state at tracks keeps ⊢
    rcases tracks.own with fresh | kept
    · have set : state.cls.jiffiesDv.value = some value := tracks.jiffies.trans read.2
      have same := here
      rw [← tracks.adjust, ← tracks.hertz] at same
      rw [uptime_computed (tracks.resetUptime fresh) set (same ▸ fits), here]
      exact congrArg Except.ok same
    · rw [uptime_kept kept, here]
      exact congrArg Except.ok (keeps kept)

end Runs

/-- Two times with one read after each. -/
def staleOps : List KernelOp :=
  [.setJiffies 1000, .uptime, .setJiffies 5000, .uptime]

theorem readsCurrent_iff_stale :
    0 < 100 ∧ (ReadsCurrent false 100 (by decide) staleOps <-> OneUptime false 100 staleOps) :=
  ⟨by decide, readsCurrent_iff false 100 (by decide) staleOps⟩

/-- The jiffies are set to 1000 and read, and set to 5000 and read.  With 100 jiffies a
second, the second read answers 10 seconds too. -/
theorem not_readsCurrent_stale :
    (runOps staleOps.dropLast (freshState false 100 (by decide))).uptime.1.map Timedelta.seconds =
        .ok 10 ∧
      uptimeSeconds false 100 5000 = 50 ∧ ¬ ReadsCurrent false 100 (by decide) staleOps := by
  have answered : (runOps staleOps.dropLast (freshState false 100 (by decide))).uptime.1.map
      Timedelta.seconds = .ok 10 := by
    rfl
  refine ⟨answered, by decide, ?_⟩
  intro current
  have wanted := current staleOps.dropLast 5000 ⟨⟨[], rfl⟩, rfl⟩
  rw [answered] at wanted
  exact absurd wanted (by decide)

end Cache
end CrashPython

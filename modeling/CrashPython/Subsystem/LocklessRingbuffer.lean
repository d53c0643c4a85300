import CrashPython.Library.Generator
import CrashPython.Library.PyString
import Mathlib.Algebra.Group.Int.Defs
import Mathlib.Algebra.Group.Nat.Defs
import Mathlib.Data.Nat.Find

namespace CrashPython
namespace Subsystem

open Library

/-!
# The lockless log of `crash/subsystem/printk/lockless_ringbuffer.py`

The log has a ring of descriptors, a ring of infos with the same number of
entries, and a ring of text.  A sequence number finds its descriptor and its
info through its lowest bits.  `show_log` counts sequence numbers upwards from
the one of the tail, and stops at the first whose slot does not hold it.

No field of the rings is trusted here.  A slot may hold any state and any
sequence number, and the text of a message may be unreadable.
-/

/-- A `struct dev_printk_info`, with its two strings cut at the first NUL. -/
structure DevPrintkInfo where
  subsystem : PyString
  device : PyString
deriving DecidableEq, Repr

/-- A `struct printk_info`. -/
structure PrintkInfo where
  seq : Nat
  tsNsec : Nat
  textLen : Nat
  level : Nat
  devInfo : DevPrintkInfo
deriving DecidableEq, Repr

/-- A `struct prb_data_blk_lpos`. -/
structure PrbDataBlkLPos where
  start : Nat
  next : Nat
deriving DecidableEq, Repr

/-- A `struct prb_desc`.  The counter of `state_var` is a signed integer. -/
structure PrbDesc where
  stateVar : Int
  textBlkLpos : PrbDataBlkLPos
deriving DecidableEq, Repr

/-- `desc_state`: the two highest bits of a word of `svBits` bits.  Python masks
a negative integer in its two's complement form. -/
def PrbDesc.descState (svBits : Nat) (desc : PrbDesc) : Int :=
  desc.stateVar / 2 ^ (svBits - 2) % 4

/-- A `struct prb_desc_ring`: two arrays of `2 ^ countBits` entries. -/
structure PrbDescRing where
  countBits : Nat
  descs : Fin (2 ^ countBits) -> PrbDesc
  infos : Fin (2 ^ countBits) -> PrintkInfo
  tailId : Int

/-- `get_idx`: the lowest bits of an id, which may be negative. -/
def PrbDescRing.getIdx (ring : PrbDescRing) (id : Int) : Fin (2 ^ ring.countBits) :=
  ⟨(id % (2 ^ ring.countBits : Nat)).toNat, by
    have positive : 0 < 2 ^ ring.countBits := Nat.two_pow_pos _
    omega⟩

def PrbDescRing.getDesc (ring : PrbDescRing) (id : Int) : PrbDesc :=
  ring.descs (ring.getIdx id)

def PrbDescRing.getInfo (ring : PrbDescRing) (id : Int) : PrintkInfo :=
  ring.infos (ring.getIdx id)

/-- What can go wrong when a log is shown. -/
inductive LocklessError where
  | logConsistency
  | unreadable
  | undecodable
deriving DecidableEq, Repr

/-- The message of `LogConsistencyException`, the only one of this module. -/
def LocklessError.text : LocklessError -> Option String
  | .logConsistency => some "Can not find valid info in the tail descriptor"
  | _ => none

/-- A `struct prb_data_ring`, with the bytes that follow the start of the ring
as far as they can be read. -/
structure PrbDataRing where
  sizeBits : Nat
  data : Nat -> Option UInt8

/-- Some bytes of the ring. -/
def PrbDataRing.bytes (ring : PrbDataRing) : Nat -> Nat -> Option (List UInt8)
  | _, 0 => some []
  | index, count + 1 =>
      match ring.data index, ring.bytes (index + 1) count with
      | some byte, some rest => some (byte :: rest)
      | _, _ => none

/-- The log, the size of `unsigned long`, and the way gdb decodes text. -/
structure PrbRingBuffer where
  descRing : PrbDescRing
  dataRing : PrbDataRing
  longSize : Nat
  decode : List UInt8 -> Option PyString

/-- The options of the command that change the output. -/
structure LogArgs where
  t : Bool := false
  d : Bool := false
  m : Bool := false
deriving DecidableEq, Repr

namespace PrbRingBuffer

/-- `get_text`.  A data block starts with the id of its descriptor. -/
def getText (log : PrbRingBuffer) (lpos : PrbDataBlkLPos) (length : Nat) :
    Except LocklessError PyString :=
  let beginIdx := lpos.start % 2 ^ log.dataRing.sizeBits
  match log.dataRing.bytes beginIdx log.longSize,
    log.dataRing.bytes (beginIdx + log.longSize) length with
  | some _, some bytes =>
      match log.decode bytes with
      | some text => .ok text
      | none => .error .undecodable
  | _, _ => .error .unreadable

def isFinalized (log : PrbRingBuffer) (desc : PrbDesc) : Bool :=
  decide (desc.descState (log.longSize * 8) = 2)

def isReusable (log : PrbRingBuffer) (desc : PrbDesc) : Bool :=
  decide (desc.descState (log.longSize * 8) = 3)

def isValidDesc (log : PrbRingBuffer) (desc : PrbDesc) (info : PrintkInfo) (seq : Nat) : Bool :=
  (log.isFinalized desc || log.isReusable desc) && decide (info.seq = seq)

/-- The loop of `first_seq` over some distances from the tail. -/
def firstSeqAmong (log : PrbRingBuffer) : List Nat -> Except LocklessError Nat
  | [] => .error .logConsistency
  | distance :: rest =>
      let id := log.descRing.tailId + distance
      let desc := log.descRing.getDesc id
      if log.isFinalized desc || log.isReusable desc then .ok (log.descRing.getInfo id).seq
      else log.firstSeqAmong rest

/-- `first_seq`, with the loop over `range(0, 1)`. -/
def firstSeq (log : PrbRingBuffer) : Except LocklessError Nat :=
  log.firstSeqAmong (List.range 1)

end PrbRingBuffer

/-- A number in decimal, filled up on the left. -/
def padded (fill : Char) (width number : Nat) : PyString :=
  let digits := Nat.toDigits 10 number
  List.replicate (width - digits.length) fill ++ digits

/-- The time stamp in front of a message. -/
def timestampText (nanoseconds : Nat) : PyString :=
  "[".toList ++ padded ' ' 5 (nanoseconds / 1000000000) ++ ".".toList ++
    padded '0' 6 (nanoseconds % 1000000000 / 1000) ++ "] ".toList

namespace PrbRingBuffer

/-- `show_msg`, with the printed lines. -/
def showMsg (log : PrbRingBuffer) (desc : PrbDesc) (info : PrintkInfo) (args : LogArgs) :
    Except LocklessError (List PyString) :=
  let timestamp := if args.t then [] else timestampText info.tsNsec
  let level := if args.m then "<".toList ++ Nat.toDigits 10 info.level ++ ">".toList else []
  match log.getText desc.textBlkLpos info.textLen with
  | .error error => .error error
  | .ok text =>
      let subsystem := if args.d && !info.devInfo.subsystem.isEmpty then
        ["  SUBSYSTEM=".toList ++ info.devInfo.subsystem] else []
      let device := if args.d && !info.devInfo.device.isEmpty then
        ["  DEVICE=".toList ++ info.devInfo.device] else []
      .ok ((level ++ timestamp ++ text) :: (subsystem ++ device))

/-- The message of a sequence number. -/
def message (log : PrbRingBuffer) (args : LogArgs) (seq : Nat) : Except LocklessError (List PyString) :=
  log.showMsg (log.descRing.getDesc seq) (log.descRing.getInfo seq) args

end PrbRingBuffer

/-- A shown message, with the sequence number it was found under. -/
structure ShownMessage where
  seq : Nat
  lines : List PyString
deriving DecidableEq, Repr

namespace PrbRingBuffer

/-- One iteration of the loop of `show_log`. -/
def showLogStep (log : PrbRingBuffer) (args : LogArgs) (seq : Nat) :
    List ShownMessage × Next Nat LocklessError :=
  let desc := log.descRing.getDesc seq
  let info := log.descRing.getInfo seq
  if log.isValidDesc desc info seq then
    if log.isReusable desc then ([], .proceed (seq + 1))
    else
      match log.showMsg desc info args with
      | .error error => ([], .stop (.raised error))
      | .ok lines => ([⟨seq, lines⟩], .proceed (seq + 1))
  else ([], .stop .completed)

/-- `show_log`.  One unit of fuel is one examined sequence number. -/
def showLog (log : PrbRingBuffer) (args : LogArgs) (fuel : Nat) :
    Option (Run ShownMessage LocklessError) :=
  match log.firstSeq with
  | .error error => some ⟨[], .raised error⟩
  | .ok first => exhaust (log.showLogStep args) fuel first

/-! ## The walk over the sequence numbers -/

/-- The slot of a sequence number holds it, finalized or reusable. -/
def holds (log : PrbRingBuffer) (seq : Nat) : Bool :=
  log.isValidDesc (log.descRing.getDesc seq) (log.descRing.getInfo seq) seq

/-- The finalized ones of some consecutive sequence numbers. -/
def finalizedFrom (log : PrbRingBuffer) (first count : Nat) : List Nat :=
  (List.range' first count).filter fun seq => log.isFinalized (log.descRing.getDesc seq)

/-- The messages of some sequence numbers, up to the first that fails. -/
def showAll (log : PrbRingBuffer) (args : LogArgs) : List Nat -> Run ShownMessage LocklessError
  | [] => ⟨[], .completed⟩
  | seq :: rest =>
      match log.message args seq with
      | .error error => ⟨[], .raised error⟩
      | .ok lines => (log.showAll args rest).after [⟨seq, lines⟩]

variable {log : PrbRingBuffer} {args : LogArgs}

theorem holds_iff (seq : Nat) : log.holds seq = true <->
    (log.isFinalized (log.descRing.getDesc seq) = true ∨
      log.isReusable (log.descRing.getDesc seq) = true) ∧ (log.descRing.getInfo seq).seq = seq := by
  rw [holds, isValidDesc, Bool.and_eq_true, Bool.or_eq_true, decide_eq_true_eq]

/-- A slot holds at most one sequence number. -/
theorem eq_of_holds {first second : Nat} (holdsFirst : log.holds first = true)
    (holdsSecond : log.holds second = true)
    (slot : log.descRing.getIdx first = log.descRing.getIdx second) : first = second := by
  have one := ((holds_iff first).mp holdsFirst).2
  have two := ((holds_iff second).mp holdsSecond).2
  rw [PrbDescRing.getInfo, slot] at one
  exact one.symm.trans two

/-- The same slot comes round after a whole turn. -/
theorem getIdx_turn (ring : PrbDescRing) (seq : Nat) :
    ring.getIdx ((seq + 2 ^ ring.countBits : Nat) : Int) = ring.getIdx seq := by
  apply Fin.ext
  simp only [PrbDescRing.getIdx, Int.natCast_add, Int.add_emod_right]

/-- The first sequence number that is not held comes within one turn. -/
theorem exists_first_missing (log : PrbRingBuffer) (first : Nat) :
    Exists fun count : Nat => count ≤ 2 ^ log.descRing.countBits ∧
      log.holds (first + count) = false ∧
        forall seq, first ≤ seq -> seq < first + count -> log.holds seq = true := by
  have missing : Exists fun count : Nat => count ≤ 2 ^ log.descRing.countBits ∧
      log.holds (first + count) = false := by
    cases start : log.holds first with
    | false => exact ⟨0, Nat.zero_le _, start⟩
    | true =>
        refine ⟨2 ^ log.descRing.countBits, Nat.le_refl _, ?_⟩
        cases turn : log.holds (first + 2 ^ log.descRing.countBits) with
        | false => rfl
        | true =>
            have same := eq_of_holds turn start (getIdx_turn log.descRing first)
            have positive : 0 < 2 ^ log.descRing.countBits := Nat.two_pow_pos _
            omega
  refine ⟨Nat.find missing, (Nat.find_spec missing).1, (Nat.find_spec missing).2, ?_⟩
  intro seq after before
  have early : seq - first < Nat.find missing := by omega
  have not := Nat.find_min missing early
  rw [Nat.add_sub_cancel' after] at not
  cases held : log.holds seq with
  | true => rfl
  | false => exact False.elim (not ⟨Nat.le_trans (Nat.le_of_lt early) (Nat.find_spec missing).1, held⟩)

/-- A state is not both finalized and reusable. -/
theorem isReusable_eq_false {desc : PrbDesc} (finalized : log.isFinalized desc = true) :
    log.isReusable desc = false := by
  rw [isFinalized, decide_eq_true_eq] at finalized
  rw [isReusable, decide_eq_false_iff_not, finalized]
  decide

/-- The loop from a sequence number, up to the first that is not held. -/
theorem exhaust_showLogStep (count first fuel : Nat)
    (held : forall seq, first ≤ seq -> seq < first + count -> log.holds seq = true)
    (missing : log.holds (first + count) = false) (enough : count < fuel) :
    exhaust (log.showLogStep args) fuel first =
      some (log.showAll args (log.finalizedFrom first count)) := by
  induction count generalizing first fuel with
  | zero =>
      rcases fuel with _ | fuel
      · exact False.elim (Nat.not_lt_zero _ enough)
      · have stops : log.showLogStep args first = ([], .stop .completed) := by
          rw [holds, Nat.add_zero] at missing
          rw [showLogStep]
          simp only [missing, Bool.false_eq_true, if_false]
        simp only [exhaust, stops]
        rfl
  | succ count inductionHypothesis =>
      rcases fuel with _ | fuel
      · exact False.elim (Nat.not_lt_zero _ enough)
      · have here := held first (Nat.le_refl _) (by omega)
        have rest := inductionHypothesis (first + 1) fuel
          (fun seq after before => held seq (Nat.le_of_succ_le after) (by omega))
          (by rw [← missing]; congr 1; omega) (Nat.lt_of_succ_lt_succ enough)
        have state := ((holds_iff first).mp here).1
        rw [holds] at here
        cases finalized : log.isFinalized (log.descRing.getDesc first) with
        | true =>
            have listed : log.finalizedFrom first (count + 1) =
                first :: log.finalizedFrom (first + 1) count := by
              rw [finalizedFrom, List.range'_succ, List.filter_cons, finalized, if_pos rfl]
              rfl
            rw [listed, showAll, message, exhaust, showLogStep]
            simp only [here, isReusable_eq_false finalized, Bool.false_eq_true, if_false, if_true]
            cases log.showMsg (log.descRing.getDesc first) (log.descRing.getInfo first) args with
            | error error => rfl
            | ok lines => simp only [rest, Option.map_some]
        | false =>
            have listed : log.finalizedFrom first (count + 1) = log.finalizedFrom (first + 1) count := by
              rw [finalizedFrom, List.range'_succ, List.filter_cons, finalized,
                if_neg Bool.false_ne_true]
              rfl
            rw [finalized] at state
            have reusable := state.resolve_left Bool.false_ne_true
            rw [listed, exhaust, showLogStep]
            simp only [here, reusable, if_true, rest, Option.map_some]
            rfl

/-! ## What is shown -/

theorem showAll_events (seqs : List Nat) :
    (log.showAll args seqs).events.map ShownMessage.seq <+: seqs ∧
      forall shown, shown ∈ (log.showAll args seqs).events ->
        log.message args shown.seq = .ok shown.lines := by
  induction seqs with
  | nil => exact ⟨List.prefix_rfl, fun _ impossible => by cases impossible⟩
  | cons seq rest inductionHypothesis =>
      rw [showAll]
      cases shown : log.message args seq with
      | error error => exact ⟨List.nil_prefix, fun _ impossible => by cases impossible⟩
      | ok lines =>
          refine ⟨List.prefix_cons_inj seq |>.mpr inductionHypothesis.1, ?_⟩
          intro later member
          rcases List.mem_cons.mp member with same | member
          · rw [same]
            exact shown
          · exact inductionHypothesis.2 later member

/-- If all messages can be read, all are shown. -/
theorem showAll_completed (seqs : List Nat)
    (readable : forall seq, seq ∈ seqs -> Exists fun lines => log.message args seq = .ok lines) :
    (log.showAll args seqs).ending = .completed ∧
      (log.showAll args seqs).events.map ShownMessage.seq = seqs := by
  induction seqs with
  | nil => exact ⟨rfl, rfl⟩
  | cons seq rest inductionHypothesis =>
      rcases readable seq List.mem_cons_self with ⟨lines, shown⟩
      rcases inductionHypothesis (fun later member => readable later (List.mem_cons_of_mem _ member)) with
        ⟨completed, complete⟩
      rw [showAll, shown]
      exact ⟨completed, congrArg (List.cons seq) complete⟩

theorem showAll_raised (seqs : List Nat) {error : LocklessError}
    (raised : (log.showAll args seqs).ending = .raised error) :
    Exists fun seq : Nat => seq ∈ seqs ∧ log.message args seq = .error error := by
  induction seqs with
  | nil => cases raised
  | cons seq rest inductionHypothesis =>
      rw [showAll] at raised
      cases shown : log.message args seq with
      | error failure =>
          rw [shown] at raised
          cases raised
          exact ⟨seq, List.mem_cons_self, shown⟩
      | ok lines =>
          rw [shown] at raised
          rcases inductionHypothesis raised with ⟨later, member, failed⟩
          exact ⟨later, List.mem_cons_of_mem _ member, failed⟩

theorem finalizedFrom_increasing (first count : Nat) :
    (log.finalizedFrom first count).Pairwise (· < ·) :=
  List.Pairwise.sublist List.filter_sublist (List.pairwise_lt_range' (s := first) (n := count))

/-- The shown messages come from different slots. -/
theorem finalizedFrom_slots {first count : Nat}
    (held : forall seq, first ≤ seq -> seq < first + count -> log.holds seq = true) :
    ((log.finalizedFrom first count).map fun seq : Nat => log.descRing.getIdx seq).Nodup := by
  have holdsAll : forall seq, seq ∈ log.finalizedFrom first count -> log.holds seq = true := by
    intro seq member
    have inside := List.mem_range'_1.mp (List.mem_filter.mp member).1
    exact held seq inside.1 inside.2
  rw [List.Nodup, List.pairwise_map]
  apply (finalizedFrom_increasing first count).imp_of_mem
  intro early late earlyMember lateMember before slot
  exact Nat.ne_of_lt before (eq_of_holds (holdsAll early earlyMember) (holdsAll late lateMember) slot)

/-- From the first sequence number on, `show_log` examines at most one number
more than there are slots.  It shows the finalized messages before the first
number that is not held, in order and each slot at most once.  An exception can
only come from a message whose text fails to be read or decoded. -/
theorem showLog_messages (log : PrbRingBuffer) (args : LogArgs) (first : Nat)
    (found : log.firstSeq = .ok first) :
    Exists fun stop : Nat => first ≤ stop ∧ stop ≤ first + 2 ^ log.descRing.countBits ∧
      log.holds stop = false ∧
      (forall seq, first ≤ seq -> seq < stop -> log.holds seq = true) ∧
      Exists fun run : Run ShownMessage LocklessError =>
        (forall fuel, 2 ^ log.descRing.countBits + 1 ≤ fuel -> log.showLog args fuel = some run) ∧
        (run.events.map ShownMessage.seq).Pairwise (· < ·) ∧
        (run.events.map fun shown => log.descRing.getIdx shown.seq).Nodup ∧
        (forall shown, shown ∈ run.events -> log.message args shown.seq = .ok shown.lines) ∧
        run.events.map ShownMessage.seq <+: log.finalizedFrom first (stop - first) ∧
        ((forall seq, seq ∈ log.finalizedFrom first (stop - first) ->
            Exists fun lines => log.message args seq = .ok lines) ->
          run.ending = .completed ∧
            run.events.map ShownMessage.seq = log.finalizedFrom first (stop - first)) ∧
        forall error, run.ending = .raised error ->
          Exists fun seq : Nat => seq ∈ log.finalizedFrom first (stop - first) ∧
            log.message args seq = .error error := by
  rcases exists_first_missing log first with ⟨count, bounded, missing, held⟩
  have shown := @showAll_events log args (log.finalizedFrom first count)
  refine ⟨first + count, Nat.le_add_right _ _, Nat.add_le_add_left bounded _, missing, held,
    log.showAll args (log.finalizedFrom first count), ?_⟩
  rw [Nat.add_sub_cancel_left]
  refine ⟨?_, (finalizedFrom_increasing first count).sublist shown.1.sublist, ?_, shown.2, shown.1,
    showAll_completed _, fun error => showAll_raised _⟩
  · intro fuel enough
    rw [showLog, found]
    exact exhaust_showLogStep count first fuel held missing (by omega)
  · have slots := (finalizedFrom_slots held).sublist (shown.1.sublist.map fun seq : Nat => log.descRing.getIdx seq)
    rw [List.map_map] at slots
    exact slots

/-! ## When every finalized message is shown -/

/-- The text that `get_text` returns. -/
theorem getText_ok_iff {lpos : PrbDataBlkLPos} {length : Nat} {decoded : PyString} :
    log.getText lpos length = .ok decoded <->
      log.dataRing.bytes (lpos.start % 2 ^ log.dataRing.sizeBits) log.longSize ≠ none ∧
        Exists fun bytes : List UInt8 =>
          log.dataRing.bytes (lpos.start % 2 ^ log.dataRing.sizeBits + log.longSize) length =
            some bytes ∧
          log.decode bytes = some decoded := by
  simp only [getText]
  cases log.dataRing.bytes (lpos.start % 2 ^ log.dataRing.sizeBits) log.longSize with
  | none => simp
  | some id =>
      cases log.dataRing.bytes
          (lpos.start % 2 ^ log.dataRing.sizeBits + log.longSize) length with
      | none => simp
      | some bytes => cases decodes : log.decode bytes <;> simp [decodes]

/-- The data block of a message can be read, and its text can be decoded. -/
structure Legible (log : PrbRingBuffer) (seq : Nat) : Prop where
  id : log.dataRing.bytes ((log.descRing.getDesc seq).textBlkLpos.start % 2 ^ log.dataRing.sizeBits)
    log.longSize ≠ none
  text : Exists fun bytes : List UInt8 =>
    log.dataRing.bytes
        ((log.descRing.getDesc seq).textBlkLpos.start % 2 ^ log.dataRing.sizeBits + log.longSize)
        (log.descRing.getInfo seq).textLen = some bytes ∧
      log.decode bytes ≠ none

/-- The message of a sequence number is printed just if it is legible. -/
theorem message_ok_iff {seq : Nat} :
    (Exists fun lines => log.message args seq = .ok lines) <-> log.Legible seq := by
  constructor
  · rintro ⟨lines, shown⟩
    rw [message, showMsg] at shown
    cases read : log.getText (log.descRing.getDesc seq).textBlkLpos (log.descRing.getInfo seq).textLen with
    | error error =>
        rw [read] at shown
        cases shown
    | ok text =>
        rcases getText_ok_iff.mp read with ⟨id, bytes, inRing, decodes⟩
        exact ⟨id, bytes, inRing, Option.ne_none_iff_exists'.mpr ⟨text, decodes⟩⟩
  · rintro ⟨id, bytes, inRing, decodable⟩
    rcases Option.ne_none_iff_exists'.mp decodable with ⟨text, decodes⟩
    have read := getText_ok_iff.mpr ⟨id, bytes, inRing, decodes⟩
    rw [message, showMsg, read]
    exact ⟨_, rfl⟩

/-- A sequence number that the walk from `first` comes to and whose slot holds it. -/
structure Reached (log : PrbRingBuffer) (first seq : Nat) : Prop where
  from_first : first ≤ seq
  held : forall earlier, first ≤ earlier -> earlier ≤ seq -> log.holds earlier = true

/-- The command returns, having printed the finalized messages before the first sequence number
that is not held, all of them, in order and each slot at most once. -/
def ShowsFinalized (log : PrbRingBuffer) (args : LogArgs) (first : Nat) : Prop :=
  Exists fun stop : Nat => first ≤ stop ∧ stop ≤ first + 2 ^ log.descRing.countBits ∧
    log.holds stop = false ∧
    (forall seq, first ≤ seq -> seq < stop -> log.holds seq = true) ∧
    Exists fun run : Run ShownMessage LocklessError =>
      (forall fuel, 2 ^ log.descRing.countBits + 1 ≤ fuel -> log.showLog args fuel = some run) ∧
      run.ending = .completed ∧
      run.events.map ShownMessage.seq = log.finalizedFrom first (stop - first) ∧
      (run.events.map ShownMessage.seq).Pairwise (· < ·) ∧
      (run.events.map fun shown => log.descRing.getIdx shown.seq).Nodup ∧
      forall shown, shown ∈ run.events -> log.message args shown.seq = .ok shown.lines

theorem mem_finalizedFrom {first count seq : Nat} : seq ∈ log.finalizedFrom first count <->
    (first ≤ seq ∧ seq < first + count) ∧ log.isFinalized (log.descRing.getDesc seq) = true := by
  rw [finalizedFrom, List.mem_filter, List.mem_range'_1]

/-- From the first sequence number on, all finalized messages that the walk comes to are shown
just if all of them are legible.  One that is not ends the log with an exception. -/
theorem showLog_showsFinalized_iff (log : PrbRingBuffer) (args : LogArgs) (first : Nat)
    (found : log.firstSeq = .ok first) :
    log.ShowsFinalized args first <->
      forall seq, log.Reached first seq -> log.isFinalized (log.descRing.getDesc seq) = true ->
        log.Legible seq := by
  constructor
  · rintro ⟨stop, _, _, missing, _, run, _, _, complete, _, _, lines⟩ seq reached finalized
    have before : seq < stop := by
      by_contra after
      have held := reached.held stop (by omega) (Nat.le_of_not_lt after)
      exact Bool.false_ne_true (missing.symm.trans held)
    have listed : seq ∈ run.events.map ShownMessage.seq := by
      rw [complete]
      exact mem_finalizedFrom.mpr ⟨⟨reached.from_first, by have := reached.from_first; omega⟩, finalized⟩
    rcases List.mem_map.mp listed with ⟨shown, member, same⟩
    rw [← same]
    exact message_ok_iff.mp ⟨shown.lines, lines shown member⟩
  · intro legible
    rcases showLog_messages log args first found with
      ⟨stop, after, bounded, missing, held, run, finishes, increasing, slots, lines, _, complete, _⟩
    have readable : forall seq, seq ∈ log.finalizedFrom first (stop - first) ->
        Exists fun lines => log.message args seq = .ok lines := by
      intro seq member
      rcases mem_finalizedFrom.mp member with ⟨⟨from_first, below⟩, finalized⟩
      refine message_ok_iff.mpr (legible seq ⟨from_first, ?_⟩ finalized)
      exact fun earlier later before => held earlier later (by omega)
    rcases complete readable with ⟨completed, all⟩
    exact ⟨stop, after, bounded, missing, held, run, finishes, completed, all, increasing, slots, lines⟩

/-- Two slots.  The tail is reusable and has number 3, and number 4 is a
finalized message. -/
def twoSlotLog : PrbRingBuffer where
  descRing := {
    countBits := 1
    descs := fun slot => if slot = 0 then ⟨-2 ^ 63, ⟨0, 16⟩⟩ else ⟨-2 ^ 62, ⟨16, 16⟩⟩
    infos := fun slot => if slot = 0 then ⟨4, 1500000000, 2, 6, ⟨[], []⟩⟩ else ⟨3, 0, 0, 6, ⟨[], []⟩⟩
    tailId := -1 }
  dataRing := {
    sizeBits := 4
    data := fun index => if index < 8 then some 0 else if index < 10 then some 104 else none }
  longSize := 8
  decode := fun bytes => some (bytes.map fun byte => Char.ofNat byte.toNat)

/-- The message is legible, and the walk ends behind it. -/
theorem showLog_showsFinalized_iff_twoSlots :
    twoSlotLog.firstSeq = .ok 3 ∧ twoSlotLog.ShowsFinalized {} 3 ∧
      twoSlotLog.showLog {} 3 = some ⟨[⟨4, ["[    1.500000] hh".toList]⟩], .completed⟩ := by
  have found : twoSlotLog.firstSeq = .ok 3 := by decide
  refine ⟨found, (showLog_showsFinalized_iff twoSlotLog {} 3 found).mpr ?_, by decide⟩
  intro seq reached finalized
  have near : seq < 5 := by
    by_contra far
    exact absurd (reached.held 5 (by decide) (Nat.le_of_not_lt far)) (by decide)
  have start := reached.from_first
  obtain rfl | rfl : seq = 3 ∨ seq = 4 := by omega
  · exact absurd finalized (by decide)
  · exact ⟨by decide, [104, 104], by decide, by decide⟩

/-- Two slots with finalized messages.  The text of the first, number 3, starts with a byte that
is not ASCII. -/
def undecodedLog : PrbRingBuffer where
  descRing := {
    countBits := 1
    descs := fun slot => if slot = 0 then ⟨-2 ^ 63, ⟨0, 16⟩⟩ else ⟨-2 ^ 63, ⟨16, 32⟩⟩
    infos := fun slot => if slot = 0 then ⟨4, 1500000000, 2, 6, ⟨[], []⟩⟩ else ⟨3, 0, 2, 6, ⟨[], []⟩⟩
    tailId := -1 }
  dataRing := {
    sizeBits := 5
    data := fun index =>
      if index < 32 then some (if index = 24 then 255 else if index % 16 < 8 then 0 else 104) else none }
  longSize := 8
  decode := fun bytes =>
    if bytes.all fun byte => byte < 128 then some (bytes.map fun byte => Char.ofNat byte.toNat) else none

/-- The finalized message with number 4 is legible, and it is not shown. -/
theorem undecodedLog_not_shown :
    undecodedLog.firstSeq = .ok 3 ∧ undecodedLog.finalizedFrom 3 2 = [3, 4] ∧
      undecodedLog.message {} 4 = .ok ["[    1.500000] hh".toList] ∧
      undecodedLog.showLog {} 3 = some ⟨[], .raised .undecodable⟩ ∧
      ¬ undecodedLog.ShowsFinalized {} 3 := by
  have ended : undecodedLog.showLog {} 3 = some ⟨[], .raised .undecodable⟩ := by decide
  refine ⟨by decide, by decide, by decide, ended, ?_⟩
  rintro ⟨_, _, _, _, _, run, finishes, completed, _⟩
  have same := (finishes 3 (Nat.le_refl 3)).symm.trans ended
  rw [Option.some.inj same] at completed
  cases completed

/-! ## Where the log starts -/

/-- The descriptor of an id is finalized or reusable, and so its sequence number is valid. -/
def isRecorded (log : PrbRingBuffer) (id : Int) : Bool :=
  log.isFinalized (log.descRing.getDesc id) || log.isReusable (log.descRing.getDesc id)

/-- The first sequence number as the comment in `first_seq` describes it.  It is
in the entry of the tail or, while the tail is being moved, in the next one. -/
def tailSeq (log : PrbRingBuffer) : Except LocklessError Nat :=
  if log.isRecorded log.descRing.tailId then .ok (log.descRing.getInfo log.descRing.tailId).seq
  else if log.isRecorded (log.descRing.tailId + 1) then
    .ok (log.descRing.getInfo (log.descRing.tailId + 1)).seq
  else .error .logConsistency

/-- `first_seq` does what its comment says, and so a log whose tail is being
moved can be shown from its start. -/
structure StartsAtTail (log : PrbRingBuffer) : Prop where
  first : log.firstSeq = log.tailSeq
  shown : log.isRecorded (log.descRing.tailId + 1) = true ->
    forall (args : LogArgs) (fuel : Nat) (run : Run ShownMessage LocklessError),
      log.showLog args fuel = some run -> run.ending ≠ .raised .logConsistency

/-- The loop over `range(0, 1)` sees the entry of the tail only. -/
theorem firstSeq_eq (log : PrbRingBuffer) :
    log.firstSeq =
      if log.isRecorded log.descRing.tailId then .ok (log.descRing.getInfo log.descRing.tailId).seq
      else .error .logConsistency := by
  have tail : log.descRing.tailId + ((0 : Nat) : Int) = log.descRing.tailId := Int.add_zero _
  change log.firstSeqAmong [0] = _
  simp only [firstSeqAmong, tail]
  rfl

/-- No message fails with the exception for an inconsistent log. -/
theorem message_ne_logConsistency (log : PrbRingBuffer) (args : LogArgs) (seq : Nat) :
    log.message args seq ≠ .error .logConsistency := by
  have text : forall lpos length, log.getText lpos length ≠ .error .logConsistency := by
    intro lpos length
    simp only [getText]
    split
    · split <;> simp
    · simp
  intro inconsistent
  simp only [message, showMsg] at inconsistent
  split at inconsistent
  · next failed =>
      cases inconsistent
      exact text _ _ failed
  · cases inconsistent

/-- After `first_seq` has found a sequence number, the log is not inconsistent. -/
theorem showLog_ne_logConsistency (log : PrbRingBuffer) (args : LogArgs) {first fuel : Nat}
    (found : log.firstSeq = .ok first) {run : Run ShownMessage LocklessError}
    (finished : log.showLog args fuel = some run) : run.ending ≠ .raised .logConsistency := by
  intro inconsistent
  simp only [showLog, found] at finished
  rcases exhaust_inv finished with ⟨_, _, seq, emitted, _, stops, _⟩
  rw [inconsistent, showLogStep] at stops
  split at stops
  · split at stops
    · cases stops
    · split at stops
      · next error failed =>
          cases stops
          exact message_ne_logConsistency log args seq failed
      · cases stops
  · cases stops

/-- `first_seq` is right just if the entry of the tail is recorded, or if
neither of the two entries is.  In the other case the log could be shown from
the next entry on, and an exception says that it is inconsistent. -/
theorem startsAtTail_iff (log : PrbRingBuffer) :
    log.StartsAtTail <->
      (log.isRecorded log.descRing.tailId = true ∨
        log.isRecorded (log.descRing.tailId + 1) = false) := by
  constructor
  · intro starts
    have first := starts.first
    rw [firstSeq_eq, tailSeq] at first
    cases tail : log.isRecorded log.descRing.tailId with
    | true => exact Or.inl rfl
    | false =>
        cases next : log.isRecorded (log.descRing.tailId + 1) with
        | false => exact Or.inr rfl
        | true =>
            rw [tail, next] at first
            cases first
  · intro either
    cases tail : log.isRecorded log.descRing.tailId with
    | true =>
        have found : log.firstSeq = .ok (log.descRing.getInfo log.descRing.tailId).seq := by
          rw [firstSeq_eq, tail, if_pos rfl]
        refine ⟨?_, fun _ args fuel run finished => showLog_ne_logConsistency log args found finished⟩
        rw [found, tailSeq, tail, if_pos rfl]
    | false =>
        rw [tail] at either
        have next := either.resolve_left Bool.false_ne_true
        refine ⟨?_, fun recorded => False.elim (Bool.false_ne_true (next.symm.trans recorded))⟩
        rw [firstSeq_eq, tailSeq, tail, next]
        rfl

/-- Two slots, in a dump taken while the tail was being moved.  The descriptor
of the tail is already reserved for a new message, and the next one is finalized. -/
def movedTailLog : PrbRingBuffer where
  descRing := {
    countBits := 1
    descs := fun slot => if slot = 0 then ⟨-2 ^ 63, ⟨0, 16⟩⟩ else ⟨1, ⟨16, 16⟩⟩
    infos := fun slot => if slot = 0 then ⟨4, 1500000000, 2, 6, ⟨[], []⟩⟩ else ⟨3, 0, 0, 6, ⟨[], []⟩⟩
    tailId := -1 }
  dataRing := twoSlotLog.dataRing
  longSize := 8
  decode := twoSlotLog.decode

/-- The message with number 4 is there, and the log is not shown. -/
theorem movedTailLog_not_startsAtTail :
    movedTailLog.tailSeq = .ok 4 ∧ movedTailLog.firstSeq = .error .logConsistency ∧
      movedTailLog.showLog {} 3 = some ⟨[], .raised .logConsistency⟩ ∧
      ¬ movedTailLog.StartsAtTail := by
  have wanted : movedTailLog.tailSeq = .ok 4 := by decide
  have found : movedTailLog.firstSeq = .error .logConsistency := by decide
  refine ⟨wanted, found, by decide, ?_⟩
  intro starts
  have same := starts.first
  rw [wanted, found] at same
  cases same

end PrbRingBuffer

end Subsystem
end CrashPython

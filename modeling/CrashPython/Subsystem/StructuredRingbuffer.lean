import CrashPython.Library.Generator
import CrashPython.Library.PyString

namespace CrashPython
namespace Subsystem

open Library

/-!
# The structured log of `crash/subsystem/printk/structured_ringbuffer.py`

The kernel places records of different lengths one after the other.  A header
of length zero marks the end of the buffer: it is not a record, and the record
in question is the one at the start of the buffer.  `RecordsFrom` states this
layout, and `LaidStraight` the same without a marker on the way.

`get_log_msgs` counts sequence numbers and follows the records in lockstep.  It
hands out a marker as if it were a record, and it starts at the first record
even where the sequence numbers start later.
-/

/-- A `struct printk_log`, the header of a record. -/
structure PrintkLog where
  len : Nat
  textLen : Nat
  dictLen : Nat
  tsNsec : Nat
  level : Nat
deriving DecidableEq, Repr

/-- How a string fails to be read. -/
inductive StringFailure where
  | unreadable
  | undecodable
deriving DecidableEq, Repr

/-- The buffer: the header at an index, and the string of some length at an
index, as gdb gives them. -/
structure LogBuffer where
  header : Nat -> Option PrintkLog
  string : Nat -> Nat -> Except StringFailure PyString
  headerSize : Nat

/-- The exceptions.  A text that fails to decode is reported and leaves the
variable `text` unbound, which fails at the end of `log_from_idx`. -/
inductive StructuredError where
  | notStructured
  | delayed
  | string (failure : StringFailure)
  | unboundText
deriving DecidableEq, Repr

/-- The message of `LogTypeException`, the only one of this module. -/
def StructuredError.text : StructuredError -> Option String
  | .notStructured => some "not structured log"
  | _ => none

/-- The dictionary that describes one message. -/
structure LogMsg where
  text : PyString
  timestamp : Nat
  level : Nat
  next : Nat
  dict : PyString
deriving DecidableEq, Repr

namespace LogBuffer

/-- The end of `log_from_idx`, once both strings are known. -/
def logMsg (idx : Nat) (header : PrintkLog) (text dict : PyString) : LogMsg where
  text := text.take header.textLen
  timestamp := header.tsNsec
  level := header.level
  next := if header.len = 0 then 0 else idx + header.len
  dict := dict.take header.dictLen

/-- `log_from_idx`. -/
def logFromIdx (buffer : LogBuffer) (idx : Nat) : Except StructuredError LogMsg :=
  match buffer.header idx with
  | none => .error (.string .unreadable)
  | some header =>
      match buffer.string (idx + buffer.headerSize) header.textLen with
      | .error .unreadable => .error (.string .unreadable)
      | text =>
          match buffer.string (idx + buffer.headerSize + header.textLen) header.dictLen with
          | .error cause => .error (.string cause)
          | .ok dict =>
              match text with
              | .ok text => .ok (logMsg idx header text dict)
              | .error _ => .error .unboundText

/-- The loop of `get_log_msgs`, which runs once for each sequence number. -/
def logMsgs (buffer : LogBuffer) : Nat -> Nat -> Run LogMsg StructuredError
  | 0, _ => ⟨[], .completed⟩
  | remaining + 1, idx =>
      match buffer.logFromIdx idx with
      | .error error => ⟨[], .raised error⟩
      | .ok msg => (buffer.logMsgs remaining msg.next).after [msg]

end LogBuffer

/-- The variables of the kernel.  One that has not been found yet is `none`. -/
structure StructuredLog where
  logBuf : Option LogBuffer
  logFirstIdx : Option Nat
  clearSeq : Option Nat
  logFirstSeq : Option Nat
  logNextSeq : Option Nat

/-- `get_log_msgs`.  Sequence numbers below the first one are not there any
more. -/
def getLogMsgs (log : StructuredLog) : Run LogMsg StructuredError :=
  match log.logFirstIdx with
  | none => ⟨[], .raised .notStructured⟩
  | some idx =>
      match log.clearSeq, log.logFirstSeq, log.logNextSeq with
      | some clearSeq, some firstSeq, some nextSeq =>
          let seq := if clearSeq < firstSeq then firstSeq else clearSeq
          match log.logBuf with
          | some buffer => buffer.logMsgs (nextSeq - seq) idx
          | none => if seq < nextSeq then ⟨[], .raised .delayed⟩ else ⟨[], .completed⟩
      | _, _, _ => ⟨[], .raised .delayed⟩

/-! ## Layouts -/

/-- The records from an index on lie at these offsets. -/
inductive RecordsFrom (buffer : LogBuffer) : Nat -> List Nat -> Prop where
  | done (idx : Nat) : RecordsFrom buffer idx []
  | record {idx : Nat} {header : PrintkLog} {rest : List Nat} (found : buffer.header idx = some header)
      (proper : header.len ≠ 0) (onward : RecordsFrom buffer (idx + header.len) rest) :
      RecordsFrom buffer idx (idx :: rest)
  | wrap {idx : Nat} {marker header : PrintkLog} {rest : List Nat}
      (marked : buffer.header idx = some marker) (zero : marker.len = 0)
      (found : buffer.header 0 = some header) (proper : header.len ≠ 0)
      (onward : RecordsFrom buffer (0 + header.len) rest) :
      RecordsFrom buffer idx (0 :: rest)

/-- The records lie end to end from an index on, with no marker between them. -/
inductive LaidStraight (buffer : LogBuffer) : Nat -> List Nat -> Prop where
  | done (idx : Nat) : LaidStraight buffer idx []
  | record {idx : Nat} {header : PrintkLog} {rest : List Nat} (found : buffer.header idx = some header)
      (proper : header.len ≠ 0) (onward : LaidStraight buffer (idx + header.len) rest) :
      LaidStraight buffer idx (idx :: rest)

/-- Both strings of the record at an offset can be read. -/
def Legible (buffer : LogBuffer) (offset : Nat) : Prop :=
  Exists fun header : PrintkLog => buffer.header offset = some header ∧
    (Exists fun text => buffer.string (offset + buffer.headerSize) header.textLen = .ok text) ∧
    Exists fun dict =>
      buffer.string (offset + buffer.headerSize + header.textLen) header.dictLen = .ok dict

/-- The run yields the messages of the records at these offsets, in order and
nothing else. -/
def Yields (buffer : LogBuffer) (run : Run LogMsg StructuredError) (offsets : List Nat) : Prop :=
  run.ending = .completed ∧
    List.Forall₂ (fun offset msg => buffer.logFromIdx offset = .ok msg) offsets run.events

/-! ## One message -/

variable {buffer : LogBuffer} {idx : Nat}

/-- A message is read exactly if both of its strings are. -/
theorem logFromIdx_ok_iff {msg : LogMsg} {header : PrintkLog} (found : buffer.header idx = some header) :
    buffer.logFromIdx idx = .ok msg <-> Exists fun text : PyString => Exists fun dict : PyString =>
      buffer.string (idx + buffer.headerSize) header.textLen = .ok text ∧
        buffer.string (idx + buffer.headerSize + header.textLen) header.dictLen = .ok dict ∧
        LogBuffer.logMsg idx header text dict = msg := by
  simp only [LogBuffer.logFromIdx, found]
  cases buffer.string (idx + buffer.headerSize) header.textLen with
  | error failure =>
      cases failure <;>
        cases buffer.string (idx + buffer.headerSize + header.textLen) header.dictLen <;> simp
  | ok text =>
      cases buffer.string (idx + buffer.headerSize + header.textLen) header.dictLen <;> simp

theorem exists_logFromIdx_iff (offset : Nat) :
    (Exists fun msg => buffer.logFromIdx offset = .ok msg) <-> Legible buffer offset := by
  constructor
  · rintro ⟨msg, read⟩
    cases found : buffer.header offset with
    | none =>
        rw [LogBuffer.logFromIdx, found] at read
        cases read
    | some header =>
        rcases (logFromIdx_ok_iff found).mp read with ⟨text, dict, textRead, dictRead, _⟩
        exact ⟨header, found, ⟨text, textRead⟩, dict, dictRead⟩
  · rintro ⟨header, found, ⟨text, textRead⟩, dict, dictRead⟩
    exact ⟨_, (logFromIdx_ok_iff found).mpr ⟨text, dict, textRead, dictRead, rfl⟩⟩

/-- A message that was read says where the next one starts. -/
theorem next_of_logFromIdx {msg : LogMsg} {header : PrintkLog} (found : buffer.header idx = some header)
    (read : buffer.logFromIdx idx = .ok msg) :
    msg.next = if header.len = 0 then 0 else idx + header.len := by
  rcases (logFromIdx_ok_iff found).mp read with ⟨text, dict, _, _, same⟩
  rw [← same]
  rfl

/-- The first message of a nonempty run. -/
theorem yields_cons_iff {count offset : Nat} {rest : List Nat} :
    Yields buffer (buffer.logMsgs (count + 1) idx) (offset :: rest) <->
      Exists fun msg : LogMsg => buffer.logFromIdx idx = .ok msg ∧ buffer.logFromIdx offset = .ok msg ∧
        Yields buffer (buffer.logMsgs count msg.next) rest := by
  rw [LogBuffer.logMsgs]
  constructor
  · rintro ⟨completed, same⟩
    cases read : buffer.logFromIdx idx with
    | error error =>
        rw [read] at completed
        cases completed
    | ok msg =>
        rw [read] at completed same
        rcases List.forall₂_cons.mp same with ⟨here, later⟩
        exact ⟨msg, rfl, here, completed, later⟩
  · rintro ⟨msg, read, here, completed, later⟩
    rw [read]
    exact ⟨completed, List.Forall₂.cons here later⟩

/-! ## Records without a marker -/

theorem yields_of_straight {offsets : List Nat} (laid : LaidStraight buffer idx offsets)
    (legible : forall offset, offset ∈ offsets -> Legible buffer offset) :
    Yields buffer (buffer.logMsgs offsets.length idx) offsets := by
  induction laid with
  | done idx => exact ⟨rfl, List.Forall₂.nil⟩
  | record found proper _ inductionHypothesis =>
      rcases (exists_logFromIdx_iff _).mpr (legible _ List.mem_cons_self) with ⟨msg, read⟩
      have next := next_of_logFromIdx found read
      rw [if_neg proper] at next
      refine yields_cons_iff.mpr ⟨msg, read, read, ?_⟩
      rw [next]
      exact inductionHypothesis fun offset member => legible offset (List.mem_cons_of_mem _ member)

theorem legible_of_yields {run : Run LogMsg StructuredError} {offsets : List Nat}
    (yields : Yields buffer run offsets) : forall offset, offset ∈ offsets -> Legible buffer offset := by
  rcases yields with ⟨_, same⟩
  generalize run.events = events at same
  induction same with
  | nil => exact fun _ impossible => by cases impossible
  | cons read _ inductionHypothesis =>
      intro offset member
      rcases List.mem_cons.mp member with here | later
      · rw [here]
        exact (exists_logFromIdx_iff _).mp ⟨_, read⟩
      · exact inductionHypothesis offset later

/-- A run that yields the records of a log has met no marker: a marker leads to
the start of the buffer, and a record does not. -/
theorem straight_of_yields {offsets : List Nat} (laid : RecordsFrom buffer idx offsets)
    (yields : Yields buffer (buffer.logMsgs offsets.length idx) offsets) :
    LaidStraight buffer idx offsets := by
  induction laid with
  | done idx => exact .done idx
  | record found proper _ inductionHypothesis =>
      rcases yields_cons_iff.mp yields with ⟨msg, read, _, later⟩
      have next := next_of_logFromIdx found read
      rw [if_neg proper] at next
      rw [next] at later
      exact .record found proper (inductionHypothesis later)
  | wrap marked zero found proper _ _ =>
      rcases yields_cons_iff.mp yields with ⟨msg, read, expected, _⟩
      have back := next_of_logFromIdx marked read
      have onward := next_of_logFromIdx found expected
      rw [if_pos zero] at back
      rw [if_neg proper, back] at onward
      omega

theorem records_of_straight {offsets : List Nat} (laid : LaidStraight buffer idx offsets) :
    RecordsFrom buffer idx offsets := by
  induction laid with
  | done idx => exact .done idx
  | record found proper _ inductionHypothesis => exact .record found proper inductionHypothesis

/-- Every record ends behind the start of the first one. -/
theorem next_of_straight {offsets : List Nat} (laid : LaidStraight buffer idx offsets) {offset : Nat}
    (member : offset ∈ offsets) :
    Exists fun header : PrintkLog => buffer.header offset = some header ∧ header.len ≠ 0 ∧
      idx < offset + header.len := by
  induction laid with
  | done idx => cases member
  | @record idx header rest found proper _ inductionHypothesis =>
      rcases List.mem_cons.mp member with same | later
      · rw [same]
        exact ⟨header, found, proper, by omega⟩
      · rcases inductionHypothesis later with ⟨last, lastFound, lastProper, beyond⟩
        exact ⟨last, lastFound, lastProper, by omega⟩

/-! ## Which logs are shown right -/

/-- The variables of a log in this buffer. -/
def StructuredLog.of (buffer : LogBuffer) (firstIdx clearSeq firstSeq nextSeq : Nat) : StructuredLog :=
  ⟨some buffer, some firstIdx, some clearSeq, some firstSeq, some nextSeq⟩

/-- A log that was not cleared after its first record is shown right if and
only if no marker stands before its last record and all strings are legible. -/
theorem getLogMsgs_records_iff {firstIdx clearSeq firstSeq nextSeq : Nat} {offsets : List Nat}
    (laid : RecordsFrom buffer firstIdx offsets) (length : firstSeq + offsets.length = nextSeq)
    (uncleared : clearSeq ≤ firstSeq) :
    Yields buffer (getLogMsgs (.of buffer firstIdx clearSeq firstSeq nextSeq)) offsets <->
      LaidStraight buffer firstIdx offsets ∧
        forall offset, offset ∈ offsets -> Legible buffer offset := by
  have start : (if clearSeq < firstSeq then firstSeq else clearSeq) = firstSeq := by
    split
    · rfl
    · omega
  have run : getLogMsgs (.of buffer firstIdx clearSeq firstSeq nextSeq) =
      buffer.logMsgs offsets.length firstIdx := by
    simp only [getLogMsgs, StructuredLog.of, start]
    rw [← length, Nat.add_sub_cancel_left]
  rw [run]
  constructor
  · intro yields
    exact ⟨straight_of_yields laid yields, legible_of_yields yields⟩
  · rintro ⟨straight, legible⟩
    exact yields_of_straight straight legible

/-- A record of 16 bytes at 32, a marker behind it, and a record of 32 bytes at
the start of the buffer. -/
def wrappedBuffer : LogBuffer where
  header := fun idx => if idx = 0 then some ⟨32, 0, 0, 5, 6⟩ else if idx = 32 then some ⟨16, 0, 0, 4, 6⟩
    else if idx = 48 then some ⟨0, 0, 0, 0, 0⟩ else none
  string := fun _ _ => .ok []
  headerSize := 16

theorem wrappedBuffer_legible {offset : Nat} (known : offset = 0 ∨ offset = 32) :
    Legible wrappedBuffer offset := by
  rcases known with rfl | rfl
  · exact ⟨⟨32, 0, 0, 5, 6⟩, rfl, ⟨[], rfl⟩, [], rfl⟩
  · exact ⟨⟨16, 0, 0, 4, 6⟩, rfl, ⟨[], rfl⟩, [], rfl⟩

/-- Without the wrap, the two records of the buffer are shown. -/
theorem getLogMsgs_records_iff_straight :
    RecordsFrom wrappedBuffer 0 [0, 32] ∧
      Yields wrappedBuffer (getLogMsgs (.of wrappedBuffer 0 0 7 9)) [0, 32] := by
  have straight : LaidStraight wrappedBuffer 0 [0, 32] :=
    .record rfl (by decide) (.record rfl (by decide) (.done _))
  have laid := records_of_straight straight
  refine ⟨laid, (getLogMsgs_records_iff laid rfl (by decide)).mpr ⟨straight, ?_⟩⟩
  intro offset member
  exact wrappedBuffer_legible (by simpa using member)

/-- With the wrap, the marker is shown in place of the second record. -/
theorem getLogMsgs_shows_marker :
    RecordsFrom wrappedBuffer 32 [32, 0] ∧
      (getLogMsgs (.of wrappedBuffer 32 0 7 9)).events = [⟨[], 4, 6, 48, []⟩, ⟨[], 0, 0, 0, []⟩] ∧
      ¬ Yields wrappedBuffer (getLogMsgs (.of wrappedBuffer 32 0 7 9)) [32, 0] := by
  refine ⟨.record rfl (by decide) (.wrap rfl rfl rfl (by decide) (.done _)), by decide, ?_⟩
  rintro ⟨_, same⟩
  cases (List.forall₂_cons.mp (List.forall₂_cons.mp same).2).1

/-- A run that starts at the first record does not yield later ones instead. -/
theorem not_yields_drop {offsets : List Nat} (laid : LaidStraight buffer idx offsets) {skipped : Nat}
    (some_ : 0 < skipped) (fewer : skipped < offsets.length) :
    ¬ Yields buffer (buffer.logMsgs (offsets.length - skipped) idx) (offsets.drop skipped) := by
  intro yields
  have count : offsets.length - skipped = offsets.length - skipped - 1 + 1 := by omega
  rw [count, List.drop_eq_getElem_cons fewer] at yields
  rcases yields_cons_iff.mp yields with ⟨msg, first, expected, _⟩
  cases laid with
  | done => exact Nat.not_lt_zero _ fewer
  | @record _ header rest found proper onward =>
      have listed : (idx :: rest)[skipped] ∈ rest := by
        rw [List.getElem_cons, dif_neg (by omega)]
        exact List.getElem_mem _
      rcases next_of_straight onward listed with ⟨later, laterFound, laterProper, beyond⟩
      have one := next_of_logFromIdx found first
      have two := next_of_logFromIdx laterFound expected
      rw [if_neg proper] at one
      rw [if_neg laterProper] at two
      omega

/-- A log that has not wrapped is shown right if and only if it was not cleared
between its first and its last record, and all strings are legible. -/
theorem getLogMsgs_cleared_iff {firstIdx clearSeq firstSeq nextSeq : Nat} {offsets : List Nat}
    (laid : LaidStraight buffer firstIdx offsets) (length : firstSeq + offsets.length = nextSeq) :
    Yields buffer (getLogMsgs (.of buffer firstIdx clearSeq firstSeq nextSeq))
        (offsets.drop (max clearSeq firstSeq - firstSeq)) <->
      (clearSeq ≤ firstSeq ∨ nextSeq ≤ clearSeq) ∧
        forall offset, offset ∈ offsets.drop (max clearSeq firstSeq - firstSeq) ->
          Legible buffer offset := by
  have start : (if clearSeq < firstSeq then firstSeq else clearSeq) = max clearSeq firstSeq := by
    split <;> omega
  have run : getLogMsgs (.of buffer firstIdx clearSeq firstSeq nextSeq) =
      buffer.logMsgs (nextSeq - max clearSeq firstSeq) firstIdx := by
    simp only [getLogMsgs, StructuredLog.of, start]
  rw [run]
  rcases Nat.lt_or_ge firstSeq clearSeq with cleared | uncleared
  · rcases Nat.lt_or_ge clearSeq nextSeq with within | beyond
    · have skipped : nextSeq - max clearSeq firstSeq =
          offsets.length - (max clearSeq firstSeq - firstSeq) := by omega
      rw [skipped]
      constructor
      · intro yields
        exact False.elim (not_yields_drop laid (by omega) (by omega) yields)
      · rintro ⟨shown, _⟩
        omega
    · have nothing : nextSeq - max clearSeq firstSeq = 0 := by omega
      have all : offsets.length ≤ max clearSeq firstSeq - firstSeq := by omega
      rw [nothing, List.drop_eq_nil_of_le all]
      constructor
      · intro yields
        exact ⟨Or.inr beyond, legible_of_yields yields⟩
      · intro _
        exact ⟨rfl, List.Forall₂.nil⟩
  · have nothing : max clearSeq firstSeq - firstSeq = 0 := by omega
    have all : nextSeq - max clearSeq firstSeq = offsets.length := by omega
    rw [nothing, all, List.drop_zero]
    constructor
    · intro yields
      exact ⟨Or.inl uncleared, legible_of_yields yields⟩
    · rintro ⟨_, legible⟩
      exact yields_of_straight laid legible

theorem getLogMsgs_cleared_iff_uncleared :
    LaidStraight wrappedBuffer 0 [0, 32] ∧
      Yields wrappedBuffer (getLogMsgs (.of wrappedBuffer 0 3 7 9)) [0, 32] := by
  have straight : LaidStraight wrappedBuffer 0 [0, 32] :=
    .record rfl (by decide) (.record rfl (by decide) (.done _))
  refine ⟨straight, ((getLogMsgs_cleared_iff straight (by decide)).mpr ⟨Or.inl (by decide), ?_⟩)⟩
  intro offset member
  exact wrappedBuffer_legible (by simpa using member)

/-- The log was cleared after its first record, which is shown all the same. -/
theorem getLogMsgs_shows_cleared :
    LaidStraight wrappedBuffer 0 [0, 32] ∧
      (getLogMsgs (.of wrappedBuffer 0 8 7 9)).events = [⟨[], 5, 6, 32, []⟩] ∧
      ¬ Yields wrappedBuffer (getLogMsgs (.of wrappedBuffer 0 8 7 9)) [32] := by
  refine ⟨.record rfl (by decide) (.record rfl (by decide) (.done _)), by decide, ?_⟩
  rintro ⟨_, same⟩
  cases (List.forall₂_cons.mp same).1

end Subsystem
end CrashPython

import CrashPython.Library.Assignments
import CrashPython.Library.PyString
import CrashPython.Library.Reads
import CrashPython.Types.Sbitmap

namespace CrashPython
namespace Subsystem

open Library Types

/-!
# Requests of a multiqueue block device

`crash/subsystem/storage/blockmq.py` finds the requests of a queue through the tags of its
hardware contexts.  The tags of a context are in two scalable bitmaps, one for reserved tags
and one for all others, and the requests of both are in one array, those of the reserved tags
first.

Whether a request is in flight depends on what `struct request` looks like in the kernel.
The state of a request is compared with a field of an enumeration, not with the value of
that field, and gdb can not compare a value with a field.  The other two ways to tell need an
enumerator of the kernel, and so does the direction of a write: the flags `REQ_STARTED`,
`REQ_SYNC` and `REQ_FUA` are bound only if `enum req_flag_bits` has them.
-/

/-- The members of a `struct request` that are read. -/
structure Request where
  cmdFlags : Nat
  atomicFlags : Nat
  q : Nat
deriving DecidableEq, Repr

/-- A `struct blk_mq_tags`, with its bitmaps and the pointers of `rqs`. -/
structure BlkMqTags where
  nrReservedTags : Nat
  bitmapTags : Sbitmap
  breservedTags : Sbitmap
  rqs : Nat -> Nat

/-- A `struct blk_mq_hw_ctx`. -/
structure BlkMqHwCtx where
  nrCtx : Nat
  tags : Nat
deriving DecidableEq, Repr

/-- A `struct request_queue`.  Not all kernels have a member `mq_ops`. -/
structure RequestQueue where
  mqOps : Option Nat
  nrHwQueues : Nat
  queueHwCtx : Nat -> BlkMqHwCtx

/-- The members by which `_check_struct_request` chooses. -/
structure StructRequest where
  rqState : Bool
  atomicFlags : Bool
deriving DecidableEq, Repr

/-- The three functions that `_rq_in_flight` can be. -/
inductive RqInFlight where
  | rqState
  | atomicFlags
  | cmdFlags
deriving DecidableEq, Repr

/-- `_check_struct_request`. -/
def StructRequest.check (members : StructRequest) : RqInFlight :=
  if members.rqState then .rqState
  else if members.atomicFlags then .atomicFlags
  else .cmdFlags

/-- The enumerators of an enumeration with their values. -/
abbrev Enumeration := List (PyString × Nat)

/-- `_export_req_flags`, with the constants that it binds.  Two flags that the enumeration does
not have are defined as 0. -/
def exportReqFlags (bits : Enumeration) (name : PyString) : Option Nat :=
  (lastAssigned name (bits.map fun bit => (bit.1.drop 2, 1 <<< bit.2))).or
    (if name = "REQ_PREFLUSH".toList ∨ name = "REQ_FLUSH".toList then some 0 else none)

/-- The structures at their addresses, and the enumerations as far as the kernel has them. -/
structure BlockImage where
  queue : Nat -> RequestQueue
  tags : Nat -> BlkMqTags
  request : Nat -> Request
  structRequest : StructRequest
  reqFlagBits : Option Enumeration
  mqRqState : Option Enumeration
  rqAtomicFlags : Option Enumeration

/-- The exceptions of the functions here. -/
inductive BlockMqError where
  | noQueue
  | invalidArgument
  | typeError
  | nameError (name : PyString)
  | keyError (name : PyString)
  | delayedAttribute (name : String)
  | overflow
  | sbitmap (error : SbitmapError)
deriving DecidableEq, Repr

/-- The messages of the exceptions that this module of the source raises. -/
def BlockMqError.text : BlockMqError -> Option String
  | .noQueue => some "Queue is NULL"
  | .invalidArgument => some "Passed request queue is not a multiqueue queue"
  | _ => none

/-- A look at an element of the array `rqs` of a hardware context. -/
structure Visit where
  context : Nat
  tags : Nat
  slot : Nat
  rq : Nat
deriving DecidableEq, Repr

/-- What identifies an element: its context and its place in the array of the context. -/
def Visit.place (visit : Visit) : Nat × Nat :=
  (visit.context, visit.slot)

namespace BlockImage

variable (image : BlockImage)

/-- `queue_is_mq`. -/
def queueIsMq (queue : Nat) : Bool :=
  match (image.queue queue).mqOps with
  | none => false
  | some ops => ops != 0

/-- `_check_queue_type`. -/
def checkQueueType (queue : Nat) : Except BlockMqError Unit :=
  if image.queueIsMq queue then .ok () else .error .invalidArgument

/-- A flag of the module.  As long as `enum req_flag_bits` is not known, none is bound. -/
def reqFlag (name : PyString) : Except BlockMqError Nat :=
  match image.reqFlagBits.bind fun bits => exportReqFlags bits name with
  | none => .error (.nameError name)
  | some mask => .ok mask

/-- The value of a field of an enumeration. -/
def enumField (enum : Option Enumeration) (type : String) (name : PyString) : Except BlockMqError Nat :=
  match enum with
  | none => .error (.delayedAttribute type)
  | some fields =>
      match fields.lookup name with
      | none => .error (.keyError name)
      | some value => .ok value

/-- `value & mask != 0`, for an integer of gdb. -/
def anyBit (value mask : Nat) : Except BlockMqError Bool :=
  if mask < 2 ^ 64 then .ok (value &&& mask != 0) else .error .overflow

/-- `rq_is_sync`. -/
def rqIsSync (rq : Nat) : Except BlockMqError Bool :=
  if (image.request rq).cmdFlags &&& 1 = 0 then .ok true
  else do
    let sync ← image.reqFlag "REQ_SYNC".toList
    let fua ← image.reqFlag "REQ_FUA".toList
    let preflush ← image.reqFlag "REQ_PREFLUSH".toList
    anyBit (image.request rq).cmdFlags (sync ||| fua ||| preflush)

/-- `rq_in_flight`.  The first of the three functions compares a value with a field. -/
def rqInFlight (rq : Nat) : Except BlockMqError Bool :=
  match image.structRequest.check with
  | .rqState => do
      let _ ← enumField image.mqRqState "enum_mq_rq_state_type" "MQ_RQ_IDLE".toList
      .error .typeError
  | .atomicFlags => do
      let started ← enumField image.rqAtomicFlags "enum_rq_atomic_flags_type" "REQ_ATOM_STARTED".toList
      anyBit (image.request rq).atomicFlags (1 <<< started)
  | .cmdFlags => do
      let started ← image.reqFlag "REQ_STARTED".toList
      anyBit (image.request rq).cmdFlags started

/-- `mq_queue_for_each_hw_ctx`.  The contexts are given by their numbers. -/
def mqQueueForEachHwCtx (queue : Nat) : Run Nat BlockMqError :=
  match image.checkQueueType queue with
  | .error error => ⟨[], .raised error⟩
  | .ok _ => ⟨List.range (image.queue queue).nrHwQueues, .completed⟩

/-- One of the two loops over the tags of a context. -/
def visitTags (context tags base : Nat) (sbitmap : Sbitmap) : Run Visit BlockMqError :=
  sbitmap.forEachSet.forEach .sbitmap fun tag =>
    ⟨[⟨context, tags, tag + base, (image.tags tags).rqs (tag + base)⟩], .completed⟩

/-- The body of the loop over the contexts, as far as the array is concerned. -/
def visitContext (queue : Nat) (reserved : Bool) (context : Nat) : Run Visit BlockMqError :=
  let hctx := (image.queue queue).queueHwCtx context
  let tags := image.tags hctx.tags
  if hctx.nrCtx = 0 ∨ hctx.tags = 0 then ⟨[], .completed⟩
  else
    (if reserved && decide (0 < tags.nrReservedTags) then
        image.visitTags context hctx.tags 0 tags.breservedTags
      else ⟨[], .completed⟩).followedBy
    (image.visitTags context hctx.tags tags.nrReservedTags tags.bitmapTags)

/-- What `mq_for_each_request_in_queue` looks at. -/
def visits (queue : Nat) (reserved : Bool) : Run Visit BlockMqError :=
  if queue = 0 then ⟨[], .raised .noQueue⟩
  else
    match image.checkQueueType queue with
    | .error error => ⟨[], .raised error⟩
    | .ok _ => (image.mqQueueForEachHwCtx queue).forEach id (image.visitContext queue reserved)

/-- The element is a request of the queue. -/
def yields (queue : Nat) (visit : Visit) : Bool :=
  visit.rq != 0 && (image.request visit.rq).q == queue

/-- `mq_for_each_request_in_queue`. -/
def mqForEachRequestInQueue (queue : Nat) (reserved : Bool) : Run Nat BlockMqError :=
  (image.visits queue reserved).forEach id fun visit =>
    if image.yields queue visit then ⟨[visit.rq], .completed⟩ else ⟨[], .completed⟩

/-- `counts[index] += 1`. -/
def increment (counts : List Nat) (index : Nat) : List Nat :=
  counts.modify index (· + 1)

/-- `mq_requests_in_flight`. -/
def mqRequestsInFlight (queue : Nat) : Except BlockMqError (List Nat) := do
  image.checkQueueType queue
  (image.mqForEachRequestInQueue queue true).folded (fun inFlight rq => do
    if ← image.rqInFlight rq then pure (increment inFlight (← image.rqIsSync rq).toNat)
    else pure inFlight) [0, 0]

/-- `mq_requests_queued`. -/
def mqRequestsQueued (queue : Nat) : Except BlockMqError (List Nat) := do
  image.checkQueueType queue
  (image.mqForEachRequestInQueue queue true).folded (fun queued rq => do
    pure (increment queued (← image.rqIsSync rq).toNat)) [0, 0]

/-- `mq_queue_request_stats`. -/
def mqQueueRequestStats (queue : Nat) : Except BlockMqError (List Nat) := do
  image.checkQueueType queue
  (image.mqForEachRequestInQueue queue true).folded (fun stats rq => do
    let stats := increment stats (← image.rqIsSync rq).toNat
    if ← image.rqInFlight rq then pure (increment stats (2 + (← image.rqIsSync rq).toNat))
    else pure stats) [0, 0, 0, 0]

/-! ## The elements that are looked at -/

/-- A blk-mq queue. -/
structure IsMqQueue (queue : Nat) : Prop where
  notNull : queue ≠ 0
  mq : image.queueIsMq queue = true

/-- The context has tags that are looked through. -/
structure UsesContext (queue context : Nat) : Prop where
  below : context < (image.queue queue).nrHwQueues
  mapped : ((image.queue queue).queueHwCtx context).nrCtx ≠ 0
  allocated : ((image.queue queue).queueHwCtx context).tags ≠ 0

/-- The tags of a context. -/
def contextTags (queue context : Nat) : BlkMqTags :=
  image.tags ((image.queue queue).queueHwCtx context).tags

/-- The tag of an element is set: a reserved tag, or a normal tag behind them. -/
def TagSet (tags : BlkMqTags) (slot : Nat) : Prop :=
  tags.breservedTags.IsSet slot ∨
    Exists fun tag : Nat => slot = tag + tags.nrReservedTags ∧ tags.bitmapTags.IsSet tag

/-- The element of a set tag of a context. -/
structure Visits (queue : Nat) (visit : Visit) : Prop where
  uses : image.UsesContext queue visit.context
  tags : visit.tags = ((image.queue queue).queueHwCtx visit.context).tags
  set : TagSet (image.contextTags queue visit.context) visit.slot
  rq : visit.rq = (image.contextTags queue visit.context).rqs visit.slot

/-- The bitmaps of a context do not overlap, neither their words nor the two of them. -/
structure TagsApart (tags : BlkMqTags) : Prop where
  normal : tags.bitmapTags.WordsApart
  reserved : tags.breservedTags.WordsApart
  below : tags.breservedTags.depth ≤ tags.nrReservedTags

/-- The bitmaps of a context that are looked through have all bits that are looked at. -/
structure TagsExist (tags : BlkMqTags) : Prop where
  normal : tags.bitmapTags.BitsExist
  reserved : 0 < tags.nrReservedTags -> tags.breservedTags.BitsExist

variable {image} {queue : Nat}

theorem checkQueueType_eq (mq : image.IsMqQueue queue) : image.checkQueueType queue = .ok () :=
  if_pos mq.mq

theorem visitTags_lists {context tags base : Nat} {sbitmap : Sbitmap}
    (apart : sbitmap.WordsApart) (exist : sbitmap.BitsExist) :
    Lists Visit.place (fun visit => Exists fun tag : Nat => sbitmap.IsSet tag ∧
        visit = ⟨context, tags, tag + base, (image.tags tags).rqs (tag + base)⟩)
      (image.visitTags context tags base sbitmap) := by
  apply (Sbitmap.forEachSet_lists apart exist).forEach
  · intro tag _
    exact ⟨rfl, List.nodup_singleton _, fun visit => List.mem_singleton⟩
  · intro one two _ _ differ first second here there same
    subst here there
    exact differ (Nat.add_right_cancel (congrArg Prod.snd same))

theorem bitsExist_of_visitTags {context tags base : Nat} {sbitmap : Sbitmap}
    (completed : (image.visitTags context tags base sbitmap).ending = .completed) :
    sbitmap.BitsExist :=
  Sbitmap.bitsExist_of_completed (Run.forEach_completed completed).1

/-- The loop over the reserved tags of one context. -/
theorem visitReserved_lists {context : Nat} (tagsApart : TagsApart (image.contextTags queue context))
    (tagsExist : TagsExist (image.contextTags queue context)) :
    Lists Visit.place
      (fun visit => Exists fun tag : Nat =>
        (image.contextTags queue context).breservedTags.IsSet tag ∧
          visit = ⟨context, ((image.queue queue).queueHwCtx context).tags, tag + 0,
            (image.contextTags queue context).rqs (tag + 0)⟩)
      (if true && decide (0 < (image.contextTags queue context).nrReservedTags) then
          image.visitTags context ((image.queue queue).queueHwCtx context).tags 0
            (image.contextTags queue context).breservedTags
        else ⟨[], .completed⟩) := by
  by_cases some : 0 < (image.contextTags queue context).nrReservedTags
  · rw [if_pos (by rw [decide_eq_true some]; rfl)]
    exact visitTags_lists tagsApart.reserved (tagsExist.reserved some)
  · rw [if_neg (by rw [decide_eq_false some]; exact Bool.false_ne_true)]
    apply Lists.nothing
    rintro visit ⟨tag, set, _⟩
    have inside := set.below
    have limit := tagsApart.below
    omega

/-- The loops over the tags of one context. -/
theorem visitContext_lists {context : Nat} (below : context < (image.queue queue).nrHwQueues)
    (apart : image.UsesContext queue context -> TagsApart (image.contextTags queue context))
    (exist : image.UsesContext queue context -> TagsExist (image.contextTags queue context)) :
    Lists Visit.place (fun visit => visit.context = context ∧ image.Visits queue visit)
      (image.visitContext queue true context) := by
  simp only [visitContext]
  by_cases skipped : ((image.queue queue).queueHwCtx context).nrCtx = 0 ∨
      ((image.queue queue).queueHwCtx context).tags = 0
  · rw [if_pos skipped]
    apply Lists.nothing
    rintro visit ⟨same, visits⟩
    subst same
    exact skipped.elim visits.uses.mapped visits.uses.allocated
  · rw [if_neg skipped]
    have uses : image.UsesContext queue context :=
      ⟨below, fun zero => skipped (.inl zero), fun zero => skipped (.inr zero)⟩
    have tagsApart := apart uses
    have tagsExist := exist uses
    have normal := @visitTags_lists image context
      ((image.queue queue).queueHwCtx context).tags
      (image.contextTags queue context).nrReservedTags _ tagsApart.normal tagsExist.normal
    have reserved := visitReserved_lists tagsApart tagsExist
    apply (reserved.followedBy normal ?_).congr
    · intro visit
      constructor
      · rintro (⟨tag, set, same⟩ | ⟨tag, set, same⟩)
        · subst same
          exact ⟨rfl, uses, rfl, .inl set, rfl⟩
        · subst same
          exact ⟨rfl, uses, rfl, .inr ⟨tag, rfl, set⟩, rfl⟩
      · rintro ⟨same, visits⟩
        rcases visit with ⟨other, tags, slot, rq⟩
        rcases visits with ⟨_, tagsSame, set, rqSame⟩
        dsimp only at same tagsSame set rqSame
        subst same tagsSame rqSame
        rcases set with reservedSet | ⟨tag, slotSame, normalSet⟩
        · exact .inl ⟨slot, reservedSet, rfl⟩
        · subst slotSame
          exact .inr ⟨tag, normalSet, rfl⟩
    · rintro first second ⟨low, set, same⟩ ⟨high, _, equal⟩ places
      subst same equal
      have inside := set.below
      have limit := tagsApart.below
      have slots : low + 0 = high + (image.contextTags queue context).nrReservedTags :=
        congrArg Prod.snd places
      omega

theorem visits_eq (mq : image.IsMqQueue queue) (reserved : Bool) :
    image.visits queue reserved =
      (⟨List.range (image.queue queue).nrHwQueues, .completed⟩ : Run Nat BlockMqError).forEach id
        (image.visitContext queue reserved) := by
  simp only [visits, mqQueueForEachHwCtx]
  rw [if_neg mq.notNull, checkQueueType_eq mq]

/-- All elements that are looked at in a queue. -/
theorem visits_lists (mq : image.IsMqQueue queue)
    (apart : forall context, image.UsesContext queue context ->
      TagsApart (image.contextTags queue context))
    (exist : forall context, image.UsesContext queue context ->
      TagsExist (image.contextTags queue context)) :
    Lists Visit.place (image.Visits queue) (image.visits queue true) := by
  have contexts : Lists id (fun context => context < (image.queue queue).nrHwQueues)
      (⟨List.range (image.queue queue).nrHwQueues, .completed⟩ : Run Nat BlockMqError) := by
    refine ⟨rfl, ?_, fun context => List.mem_range⟩
    rw [List.map_id]
    exact List.nodup_range
  rw [visits_eq mq]
  apply (contexts.forEach (fun context below =>
    visitContext_lists below (apart context) (exist context)) ?_).congr
  · intro visit
    constructor
    · rintro ⟨_, _, _, visits⟩
      exact visits
    · intro visits
      exact ⟨visit.context, visits.uses.below, rfl, visits⟩
  · rintro one two _ _ differ first second ⟨here, _⟩ ⟨there, _⟩ same
    apply differ
    rw [id, id, ← here, ← there]
    exact congrArg Prod.fst same

/-- Loops that complete look only at bits that there are. -/
theorem tagsExist_of_visits {context : Nat} (mq : image.IsMqQueue queue)
    (completed : (image.visits queue true).ending = .completed)
    (uses : image.UsesContext queue context) : TagsExist (image.contextTags queue context) := by
  rw [visits_eq mq] at completed
  have round := (Run.forEach_completed completed).2 context (List.mem_range.mpr uses.below)
  simp only [visitContext] at round
  rw [if_neg (not_or.mpr ⟨uses.mapped, uses.allocated⟩)] at round
  rcases Run.followedBy_completed round with ⟨reserved, normal⟩
  refine ⟨bitsExist_of_visitTags normal, ?_⟩
  intro some
  have positive : 0 < (image.tags ((image.queue queue).queueHwCtx context).tags).nrReservedTags :=
    some
  rw [if_pos (by rw [decide_eq_true positive]; rfl)] at reserved
  exact bitsExist_of_visitTags reserved

/-! ## The requests and their numbers -/

/-- The requests among some elements. -/
def requestsOf (image : BlockImage) (queue : Nat) (visits : List Visit) : List Nat :=
  (visits.filter (image.yields queue)).map Visit.rq

theorem mqForEachRequestInQueue_eq {visits : List Visit} {reserved : Bool}
    (looked : image.visits queue reserved = ⟨visits, .completed⟩) :
    image.mqForEachRequestInQueue queue reserved =
      ⟨image.requestsOf queue visits, .completed⟩ := by
  simp only [mqForEachRequestInQueue]
  rw [looked, Run.forEach_of_completed]
  · congr 1
    clear looked
    simp only [requestsOf]
    induction visits with
    | nil => rfl
    | cons visit rest inductionHypothesis =>
        rw [List.flatMap_cons, List.filter_cons]
        cases image.yields queue visit with
        | true => exact congrArg (List.cons visit.rq) inductionHypothesis
        | false => exact inductionHypothesis
  · intro visit _
    cases image.yields queue visit <;> rfl

/-- The request is synchronous. -/
def synchronous (image : BlockImage) (rq : Nat) : Bool :=
  decide (image.rqIsSync rq = .ok true)

/-- The request is in flight. -/
def flying (image : BlockImage) (rq : Nat) : Bool :=
  decide (image.rqInFlight rq = .ok true)

/-- Both questions about a request have an answer. -/
structure Answered (image : BlockImage) (rq : Nat) : Prop where
  sync : image.rqIsSync rq = .ok (image.synchronous rq)
  flight : image.rqInFlight rq = .ok (image.flying rq)

theorem answer_eq {answer : Except BlockMqError Bool} {found : Bool} (answered : answer = .ok found) :
    answer = .ok (decide (answer = .ok true)) := by
  rw [answered]
  cases found <;> rfl

/-- How many requests are counted as asynchronous and as synchronous. -/
def tally (image : BlockImage) (counted : Nat -> Bool) (requests : List Nat) : List Nat :=
  [requests.countP fun rq => counted rq && !image.synchronous rq,
    requests.countP fun rq => counted rq && image.synchronous rq]

theorem tally_sum (counted : Nat -> Bool) (requests : List Nat) :
    (image.tally counted requests).sum = requests.countP counted := by
  simp only [tally]
  induction requests with
  | nil => rfl
  | cons rq rest inductionHypothesis =>
      simp only [List.countP_cons, List.sum_cons, List.sum_nil] at inductionHypothesis ⊢
      cases counted rq <;> cases image.synchronous rq <;> simp <;> omega

section Folds

variable {requests : List Nat} (answers : forall rq, rq ∈ requests -> image.Answered rq)

include answers

theorem foldlM_queued (async sync : Nat) :
    requests.foldlM (fun queued rq => do
        pure (increment queued (← image.rqIsSync rq).toNat)) [async, sync] =
      .ok [async + requests.countP (fun rq => true && !image.synchronous rq),
        sync + requests.countP (fun rq => true && image.synchronous rq)] := by
  induction requests generalizing async sync with
  | nil => rfl
  | cons rq rest inductionHypothesis =>
      have later := inductionHypothesis fun other member =>
        answers other (List.mem_cons_of_mem rq member)
      rw [List.foldlM_cons, (answers rq List.mem_cons_self).sync, List.countP_cons, List.countP_cons]
      cases image.synchronous rq with
      | false =>
          refine (later (async + 1) sync).trans ?_
          simp
          omega
      | true =>
          refine (later async (sync + 1)).trans ?_
          simp
          omega

theorem foldlM_inFlight (async sync : Nat) :
    requests.foldlM (fun inFlight rq => do
        if ← image.rqInFlight rq then pure (increment inFlight (← image.rqIsSync rq).toNat)
        else pure inFlight) [async, sync] =
      .ok [async + requests.countP (fun rq => image.flying rq && !image.synchronous rq),
        sync + requests.countP (fun rq => image.flying rq && image.synchronous rq)] := by
  induction requests generalizing async sync with
  | nil => rfl
  | cons rq rest inductionHypothesis =>
      have later := inductionHypothesis fun other member =>
        answers other (List.mem_cons_of_mem rq member)
      have here := answers rq List.mem_cons_self
      rw [List.foldlM_cons, here.flight, here.sync, List.countP_cons, List.countP_cons]
      cases image.flying rq with
      | false =>
          refine (later async sync).trans ?_
          simp
      | true =>
          cases image.synchronous rq with
          | false =>
              refine (later (async + 1) sync).trans ?_
              simp
              omega
          | true =>
              refine (later async (sync + 1)).trans ?_
              simp
              omega

theorem foldlM_stats (async sync asyncFlying syncFlying : Nat) :
    requests.foldlM (fun stats rq => do
        let stats := increment stats (← image.rqIsSync rq).toNat
        if ← image.rqInFlight rq then pure (increment stats (2 + (← image.rqIsSync rq).toNat))
        else pure stats) [async, sync, asyncFlying, syncFlying] =
      .ok [async + requests.countP (fun rq => true && !image.synchronous rq),
        sync + requests.countP (fun rq => true && image.synchronous rq),
        asyncFlying + requests.countP (fun rq => image.flying rq && !image.synchronous rq),
        syncFlying + requests.countP (fun rq => image.flying rq && image.synchronous rq)] := by
  induction requests generalizing async sync asyncFlying syncFlying with
  | nil => rfl
  | cons rq rest inductionHypothesis =>
      have later := inductionHypothesis fun other member =>
        answers other (List.mem_cons_of_mem rq member)
      have here := answers rq List.mem_cons_self
      rw [List.foldlM_cons, here.flight, here.sync]
      simp only [List.countP_cons]
      cases image.flying rq with
      | false =>
          cases image.synchronous rq with
          | false =>
              refine (later (async + 1) sync asyncFlying syncFlying).trans ?_
              simp
              omega
          | true =>
              refine (later async (sync + 1) asyncFlying syncFlying).trans ?_
              simp
              omega
      | true =>
          cases image.synchronous rq with
          | false =>
              refine (later (async + 1) sync (asyncFlying + 1) syncFlying).trans ?_
              simp
              omega
          | true =>
              refine (later async (sync + 1) asyncFlying (syncFlying + 1)).trans ?_
              simp
              omega

end Folds

variable (image queue)

/-- The iterator goes once through the elements of the set tags of all contexts, and yields the
requests of the queue among them.  Contexts that do not share their tags have no element in
common. -/
structure Enumerates (visits : List Visit) : Prop where
  looked : image.visits queue true = ⟨visits, .completed⟩
  once : (visits.map Visit.place).Nodup
  arrays : (forall one two, image.UsesContext queue one -> image.UsesContext queue two ->
      ((image.queue queue).queueHwCtx one).tags = ((image.queue queue).queueHwCtx two).tags ->
        one = two) ->
    (visits.map fun visit => (visit.tags, visit.slot)).Nodup
  exactly : forall visit, visit ∈ visits <-> image.Visits queue visit
  yields : image.mqForEachRequestInQueue queue true = ⟨image.requestsOf queue visits, .completed⟩

/-- The three functions that count agree with each other and with the iterator. -/
structure Counts (requests queued inFlight : List Nat) : Prop where
  queues : image.mqRequestsQueued queue = .ok queued
  flies : image.mqRequestsInFlight queue = .ok inFlight
  stats : image.mqQueueRequestStats queue = .ok (queued ++ inFlight)
  pairs : queued.length = 2 ∧ inFlight.length = 2
  queuedSum : queued.sum = requests.length
  inFlightSum : inFlight.sum = requests.countP image.flying

/-- The iterator and the functions that count do what they are for. -/
def AccountsFor : Prop :=
  Exists fun visits : List Visit => Exists fun queued : List Nat => Exists fun inFlight : List Nat =>
    image.Enumerates queue visits ∧
      image.Counts queue (image.requestsOf queue visits) queued inFlight

/-- A flag has been exported. -/
def Exported (name : PyString) (mask : Nat) : Prop :=
  Exists fun bits : Enumeration => image.reqFlagBits = some bits ∧ exportReqFlags bits name = some mask

/-- The kernel has what is needed to tell whether a request is synchronous and in flight.  The
flags of a read are not looked at. -/
structure Classifiable (rq : Nat) : Prop where
  write : (image.request rq).cmdFlags &&& 1 ≠ 0 ->
    Exists fun sync : Nat => Exists fun fua : Nat => Exists fun preflush : Nat =>
      image.Exported "REQ_SYNC".toList sync ∧ image.Exported "REQ_FUA".toList fua ∧
        image.Exported "REQ_PREFLUSH".toList preflush ∧ sync ||| fua ||| preflush < 2 ^ 64
  stateless : image.structRequest.rqState = false
  atomic : image.structRequest.atomicFlags = true ->
    Exists fun fields : Enumeration => Exists fun started : Nat =>
      image.rqAtomicFlags = some fields ∧ fields.lookup "REQ_ATOM_STARTED".toList = some started ∧
        1 <<< started < 2 ^ 64
  flags : image.structRequest.atomicFlags = false ->
    Exists fun started : Nat => image.Exported "REQ_STARTED".toList started ∧ started < 2 ^ 64

/-- No loop looks at a bit that its word does not have, and the requests of the queue in the set
tags can be classified. -/
structure Countable : Prop where
  bits : forall context, image.UsesContext queue context ->
    TagsExist (image.contextTags queue context)
  classified : forall visit, image.Visits queue visit -> image.yields queue visit = true ->
    image.Classifiable visit.rq

variable {image queue}

theorem Enumerates.of_lists
    (lists : Lists Visit.place (image.Visits queue) (image.visits queue true)) :
    image.Enumerates queue (image.visits queue true).events := by
  have looked : image.visits queue true = ⟨(image.visits queue true).events, .completed⟩ := by
    rw [← lists.completed]
  refine ⟨looked, lists.once, ?_, lists.exactly, mqForEachRequestInQueue_eq looked⟩
  intro different
  apply (List.Nodup.of_map Visit.place lists.once).map_on
  intro one inOne two inTwo same
  have first := (lists.exactly one).mp inOne
  have second := (lists.exactly two).mp inTwo
  rcases Prod.mk.inj same with ⟨tagsSame, slotSame⟩
  have contextSame := different one.context two.context first.uses second.uses
    (first.tags.symm.trans (tagsSame.trans second.tags))
  have rqSame : one.rq = two.rq := by
    rw [first.rq, second.rq, contextSame, slotSame]
  cases one
  cases two
  dsimp only at contextSame tagsSame slotSame rqSame
  subst contextSame tagsSame slotSame rqSame
  rfl

theorem reqFlag_ok {name : PyString} {mask : Nat} :
    image.reqFlag name = .ok mask <-> image.Exported name mask := by
  rw [reqFlag, Exported]
  cases image.reqFlagBits with
  | none =>
      refine ⟨fun impossible => (by cases impossible), ?_⟩
      rintro ⟨_, impossible, _⟩
      cases impossible
  | some bits =>
      rw [Option.bind_some]
      cases exported : exportReqFlags bits name with
      | none =>
          refine ⟨fun impossible => (by cases impossible), ?_⟩
          rintro ⟨_, same, found⟩
          cases same
          rw [exported] at found
          cases found
      | some other =>
          constructor
          · intro same
            cases same
            exact ⟨bits, rfl, exported⟩
          · rintro ⟨_, same, found⟩
            cases same
            rw [exported] at found
            cases found
            rfl

theorem enumField_ok {enum : Option Enumeration} {type : String} {name : PyString} {value : Nat} :
    enumField enum type name = .ok value <->
      Exists fun fields : Enumeration => enum = some fields ∧ fields.lookup name = some value := by
  unfold enumField
  cases enum with
  | none =>
      refine ⟨fun impossible => (by cases impossible), ?_⟩
      rintro ⟨_, impossible, _⟩
      cases impossible
  | some fields =>
      cases found : fields.lookup name with
      | none =>
          simp only [found]
          refine ⟨fun impossible => (by cases impossible), ?_⟩
          rintro ⟨_, same, here⟩
          cases same
          rw [found] at here
          cases here
      | some other =>
          simp only [found]
          constructor
          · intro same
            cases same
            exact ⟨fields, rfl, found⟩
          · rintro ⟨_, same, here⟩
            cases same
            rw [found] at here
            cases here
            rfl

theorem anyBit_ok {value mask : Nat} :
    (Exists fun answer : Bool => anyBit value mask = .ok answer) <-> mask < 2 ^ 64 := by
  rw [anyBit]
  by_cases fits : mask < 2 ^ 64
  · rw [if_pos fits]
    exact ⟨fun _ => fits, fun _ => ⟨_, rfl⟩⟩
  · rw [if_neg fits]
    refine ⟨?_, fun inside => False.elim (fits inside)⟩
    rintro ⟨_, impossible⟩
    cases impossible

/-- When `rq_is_sync` has an answer. -/
theorem rqIsSync_ok {rq : Nat} : (Exists fun answer : Bool => image.rqIsSync rq = .ok answer) <->
    ((image.request rq).cmdFlags &&& 1 ≠ 0 ->
      Exists fun sync : Nat => Exists fun fua : Nat => Exists fun preflush : Nat =>
        image.Exported "REQ_SYNC".toList sync ∧ image.Exported "REQ_FUA".toList fua ∧
          image.Exported "REQ_PREFLUSH".toList preflush ∧ sync ||| fua ||| preflush < 2 ^ 64) := by
  rw [rqIsSync]
  by_cases read : (image.request rq).cmdFlags &&& 1 = 0
  · rw [if_pos read]
    exact ⟨fun _ write => False.elim (write read), fun _ => ⟨true, rfl⟩⟩
  · rw [if_neg read]
    constructor
    · rintro ⟨answer, found⟩ _
      rcases except_bind_ok.mp found with ⟨sync, first, rest⟩
      rcases except_bind_ok.mp rest with ⟨fua, second, rest⟩
      rcases except_bind_ok.mp rest with ⟨preflush, third, last⟩
      exact ⟨sync, fua, preflush, reqFlag_ok.mp first, reqFlag_ok.mp second, reqFlag_ok.mp third,
        anyBit_ok.mp ⟨answer, last⟩⟩
    · intro bound
      rcases bound read with ⟨sync, fua, preflush, first, second, third, fits⟩
      rcases anyBit_ok.mpr fits with ⟨answer, last⟩
      exact ⟨answer, except_bind_ok.mpr ⟨sync, reqFlag_ok.mpr first, except_bind_ok.mpr
        ⟨fua, reqFlag_ok.mpr second, except_bind_ok.mpr ⟨preflush, reqFlag_ok.mpr third, last⟩⟩⟩⟩

/-- When `rq_in_flight` has an answer. -/
theorem rqInFlight_ok {rq : Nat} : (Exists fun answer : Bool => image.rqInFlight rq = .ok answer) <->
    image.structRequest.rqState = false ∧
      (image.structRequest.atomicFlags = true ->
        Exists fun fields : Enumeration => Exists fun started : Nat =>
          image.rqAtomicFlags = some fields ∧ fields.lookup "REQ_ATOM_STARTED".toList = some started ∧
            1 <<< started < 2 ^ 64) ∧
      (image.structRequest.atomicFlags = false ->
        Exists fun started : Nat => image.Exported "REQ_STARTED".toList started ∧ started < 2 ^ 64) := by
  simp only [rqInFlight, StructRequest.check]
  cases image.structRequest.rqState with
  | true =>
      refine ⟨?_, fun parts => (by cases parts.1)⟩
      rintro ⟨answer, found⟩
      rcases except_bind_ok.mp found with ⟨_, _, impossible⟩
      cases impossible
  | false =>
      cases image.structRequest.atomicFlags with
      | true =>
          constructor
          · rintro ⟨answer, found⟩
            rcases except_bind_ok.mp found with ⟨started, field, last⟩
            rcases enumField_ok.mp field with ⟨fields, known, here⟩
            exact ⟨rfl, fun _ => ⟨fields, started, known, here, anyBit_ok.mp ⟨answer, last⟩⟩,
              fun impossible => (by cases impossible)⟩
          · rintro ⟨_, atomic, _⟩
            rcases atomic rfl with ⟨fields, started, known, here, fits⟩
            rcases anyBit_ok.mpr fits with ⟨answer, last⟩
            exact ⟨answer, except_bind_ok.mpr ⟨started, enumField_ok.mpr ⟨fields, known, here⟩, last⟩⟩
      | false =>
          constructor
          · rintro ⟨answer, found⟩
            rcases except_bind_ok.mp found with ⟨started, flag, last⟩
            exact ⟨rfl, fun impossible => (by cases impossible),
              fun _ => ⟨started, reqFlag_ok.mp flag, anyBit_ok.mp ⟨answer, last⟩⟩⟩
          · rintro ⟨_, _, flags⟩
            rcases flags rfl with ⟨started, flag, fits⟩
            rcases anyBit_ok.mpr fits with ⟨answer, last⟩
            exact ⟨answer, except_bind_ok.mpr ⟨started, reqFlag_ok.mpr flag, last⟩⟩

/-- Both questions about a request have an answer just if the request can be classified. -/
theorem answered_iff {rq : Nat} : image.Answered rq <-> image.Classifiable rq := by
  constructor
  · intro answered
    rcases rqInFlight_ok.mp ⟨_, answered.flight⟩ with ⟨stateless, atomic, flags⟩
    exact ⟨rqIsSync_ok.mp ⟨_, answered.sync⟩, stateless, atomic, flags⟩
  · rintro ⟨write, stateless, atomic, flags⟩
    rcases rqIsSync_ok.mpr write with ⟨sync, answered⟩
    rcases rqInFlight_ok.mpr ⟨stateless, atomic, flags⟩ with ⟨flight, answeredToo⟩
    exact ⟨answer_eq answered, answer_eq answeredToo⟩

variable {requests : List Nat}

theorem counts_of_answers (mq : image.IsMqQueue queue)
    (yielded : image.mqForEachRequestInQueue queue true = ⟨requests, .completed⟩)
    (answers : forall rq, rq ∈ requests -> image.Answered rq) :
    image.Counts queue requests (image.tally (fun _ => true) requests)
      (image.tally image.flying requests) := by
  refine ⟨?_, ?_, ?_, ⟨rfl, rfl⟩, ?_, tally_sum _ _⟩
  · simp only [mqRequestsQueued, tally]
    rw [checkQueueType_eq mq, yielded, Run.folded_of_completed]
    change List.foldlM _ _ _ = _
    rw [foldlM_queued answers, Nat.zero_add, Nat.zero_add]
  · simp only [mqRequestsInFlight, tally]
    rw [checkQueueType_eq mq, yielded, Run.folded_of_completed]
    change List.foldlM _ _ _ = _
    rw [foldlM_inFlight answers, Nat.zero_add, Nat.zero_add]
  · simp only [mqQueueRequestStats, tally]
    rw [checkQueueType_eq mq, yielded, Run.folded_of_completed]
    change List.foldlM _ _ _ = _
    rw [foldlM_stats answers, Nat.zero_add, Nat.zero_add, Nat.zero_add, Nat.zero_add]
    rfl
  · rw [tally_sum, List.countP_true]

/-- Where the counts are returned, all questions have had an answer. -/
theorem answered_of_counts (mq : image.IsMqQueue queue)
    (yielded : image.mqForEachRequestInQueue queue true = ⟨requests, .completed⟩) {stats : List Nat}
    (counted : image.mqQueueRequestStats queue = .ok stats) {rq : Nat} (member : rq ∈ requests) :
    image.Answered rq := by
  simp only [mqQueueRequestStats] at counted
  rw [checkQueueType_eq mq, yielded, Run.folded_of_completed] at counted
  rcases except_bind_ok.mp counted with ⟨_, _, folded⟩
  rcases found_of_foldlM folded rq member with ⟨_, _, step⟩
  rcases except_bind_ok.mp step with ⟨sync, answered, rest⟩
  rcases except_bind_ok.mp rest with ⟨flight, answeredToo, _⟩
  exact ⟨answer_eq answered, answer_eq answeredToo⟩

variable (image queue)

/-- The requests of a queue are enumerated and counted just if no bit is missing from a word and
each request of the queue can be classified. -/
theorem mqQueueRequestStats_iff (mq : image.IsMqQueue queue)
    (apart : forall context, image.UsesContext queue context ->
      TagsApart (image.contextTags queue context)) :
    image.AccountsFor queue <-> image.Countable queue := by
  constructor
  · rintro ⟨visits, queued, inFlight, enumerates, counts⟩
    have completed : (image.visits queue true).ending = .completed := by rw [enumerates.looked]
    refine ⟨fun context uses => tagsExist_of_visits mq completed uses, fun visit looked yields => ?_⟩
    have member : visit.rq ∈ image.requestsOf queue visits :=
      List.mem_map_of_mem (List.mem_filter.mpr ⟨(enumerates.exactly visit).mpr looked, yields⟩)
    exact answered_iff.mp (answered_of_counts mq enumerates.yields counts.stats member)
  · rintro ⟨bits, classified⟩
    have enumerates := Enumerates.of_lists (visits_lists mq apart bits)
    refine ⟨_, _, _, enumerates, counts_of_answers mq enumerates.yields ?_⟩
    intro rq member
    rcases List.mem_map.mp member with ⟨visit, chosen, rfl⟩
    rcases List.mem_filter.mp chosen with ⟨listed, yields⟩
    exact answered_iff.mpr (classified visit ((enumerates.exactly visit).mp listed) yields)

end BlockImage

/-- The reserved tag is set, and so are normal tags in both words of their bitmap, of which one
is marked as cleared and one is not in use. -/
def oneContextTags : BlkMqTags where
  nrReservedTags := 1
  breservedTags := ⟨1, 1, 2, fun _ => ⟨1#64, none, 1⟩⟩
  bitmapTags := ⟨6, 2, 2, fun i => if i = 0 then ⟨5#64, some 4#64, 4⟩ else ⟨6#64, some 0#64, 2⟩⟩
  rqs := fun slot => 100 + slot

theorem oneContextTags_apart : BlockImage.TagsApart oneContextTags where
  normal := by
    change forall i, i < 2 -> (oneContextTags.bitmapTags.map i).depth ≤ 4
    decide
  reserved := by
    change forall i, i < 1 -> (oneContextTags.breservedTags.map i).depth ≤ 4
    decide
  below := Nat.le_refl 1

theorem oneContextTags_exist : BlockImage.TagsExist oneContextTags where
  normal := by
    change forall i, i < 2 -> oneContextTags.bitmapTags.bits i ≤ 64
    decide
  reserved := by
    intro _
    change forall i, i < 1 -> oneContextTags.breservedTags.bits i ≤ 64
    decide

/-- The enumerators that `exportReqFlags` and the counters look for. -/
def someReqFlags : Enumeration :=
  [("__REQ_SYNC".toList, 3), ("__REQ_FUA".toList, 4), ("__REQ_PREFLUSH".toList, 5)]

/-- A queue with one context. -/
def oneContextImage (rqState : Bool) (reqFlagBits : Option Enumeration) : BlockImage where
  queue := fun _ => ⟨some 4096, 1, fun _ => ⟨1, 8192⟩⟩
  tags := fun _ => oneContextTags
  request := fun rq => ⟨if rq = 100 then 0 else 3, 0, 16⟩
  structRequest := ⟨rqState, false⟩
  reqFlagBits
  mqRqState := some [("MQ_RQ_IDLE".toList, 0)]
  rqAtomicFlags := none

/-- A kernel with the flag that says that a request has been started. -/
def startedImage : BlockImage :=
  oneContextImage false (some (("__REQ_STARTED".toList, 1) :: someReqFlags))

theorem oneContextImage_mq (rqState : Bool) (bits : Option Enumeration) :
    (oneContextImage rqState bits).IsMqQueue 16 :=
  ⟨by decide, rfl⟩

theorem mqQueueRequestStats_iff_oneContext :
    startedImage.AccountsFor 16 ∧
      startedImage.mqForEachRequestInQueue 16 true = ⟨[100, 101, 106], .completed⟩ ∧
      startedImage.mqQueueRequestStats 16 = .ok [2, 1, 2, 0] := by
  refine ⟨?_, by decide, by decide⟩
  apply (startedImage.mqQueueRequestStats_iff 16 (oneContextImage_mq false _)
    (fun _ _ => oneContextTags_apart)).mpr
  refine ⟨fun _ _ => oneContextTags_exist, fun visit _ _ => ⟨fun _ => ?_, rfl, ?_, fun _ => ?_⟩⟩
  · exact ⟨8, 16, 32, ⟨_, rfl, by decide⟩, ⟨_, rfl, by decide⟩, ⟨_, rfl, by decide⟩, by decide⟩
  · intro impossible
    cases impossible
  · exact ⟨2, ⟨_, rfl, by decide⟩, by decide⟩

/-- The requests of a kernel whose requests have a state are found, and can not be counted.  Nor
can those of a kernel without a state and without the flag `REQ_STARTED`. -/
theorem mqRequestsInFlight_typeError :
    (forall rqState, (oneContextImage rqState (some someReqFlags)).IsMqQueue 16 ∧
      (forall context, (oneContextImage rqState (some someReqFlags)).UsesContext 16 context ->
        BlockImage.TagsApart ((oneContextImage rqState (some someReqFlags)).contextTags 16 context)) ∧
      (oneContextImage rqState (some someReqFlags)).mqForEachRequestInQueue 16 true =
        ⟨[100, 101, 106], .completed⟩ ∧
      ¬ (oneContextImage rqState (some someReqFlags)).AccountsFor 16) ∧
    (oneContextImage true (some someReqFlags)).mqRequestsInFlight 16 = .error .typeError ∧
    (oneContextImage false (some someReqFlags)).mqRequestsInFlight 16 =
      .error (.nameError "REQ_STARTED".toList) := by
  have state : (oneContextImage true (some someReqFlags)).mqRequestsInFlight 16 = .error .typeError := by
    decide
  have flag : (oneContextImage false (some someReqFlags)).mqRequestsInFlight 16 =
      .error (.nameError "REQ_STARTED".toList) := by
    decide
  refine ⟨fun rqState => ⟨oneContextImage_mq rqState _, fun _ _ => oneContextTags_apart,
    by cases rqState <;> decide, ?_⟩, state, flag⟩
  rintro ⟨_, _, _, _, counts⟩
  have returned := counts.flies
  cases rqState with
  | true =>
      rw [state] at returned
      cases returned
  | false =>
      rw [flag] at returned
      cases returned

end Subsystem
end CrashPython

import CrashPython.Library.Generator
import CrashPython.Library.MemoryImage
import CrashPython.Library.Orbit

namespace CrashPython
namespace Types

open Library

/-!
# The list iterator of `crash/types/list.py`

`list_for_each` walks a kernel list through the `next` links of its nodes, or
through the `prev` links when `reverse` is set.  On the way it checks every
back link.  A broken back link is remembered and reported only after the walk;
in the default mode it also starts a cycle detector, because a cycle that
leaves the head out must show a broken back link somewhere.

The embedding keeps the loop of the source: `listHeadVisit` is one iteration,
with the loop-carried variables in `ListWalk`, and the generator is driven by
`exhaust`.  A node is known by its address.  A gdb value is fetched when it is
used, and both links of a node live in one mapped object, so a node fails to
read at its first use, before it is yielded.
-/

/-- The two links of a `struct list_head`. -/
structure ListHead where
  next : Nat
  prev : Nat
deriving DecidableEq, Repr

/-- The names of the two links, as they appear in messages. -/
inductive LinkName where
  | next
  | prev
deriving DecidableEq, Repr

/-- The optional arguments of `list_for_each`, with the defaults of the
source. -/
structure ListOptions where
  includeHead : Bool := false
  reverse : Bool := false
  printBrokenLinks : Bool := true
  exactCycles : Bool := false
deriving DecidableEq, Repr

namespace ListOptions

/-- The variable `next_` of the source. -/
def nextName (options : ListOptions) : LinkName :=
  if options.reverse then .prev else .next

/-- The variable `prev_` of the source. -/
def prevName (options : ListOptions) : LinkName :=
  if options.reverse then .next else .prev

end ListOptions

/-- Read a link by its name. -/
def ListHead.link (node : ListHead) : LinkName -> Nat
  | .next => node.next
  | .prev => node.prev

/-- The argument of the iterator as its type checks see it.  A pointer to a
list head is dereferenced first; both accepted forms name one address.  The
pointer itself may be stored in memory, or it may be the result of a cast. -/
inductive ListArgument where
  | notValue
  | otherType
  | listHead (address : Nat)
  | listHeadPointer (address : Nat) (stored : Bool := true)
deriving DecidableEq, Repr

/-- The data of a broken-link message: where the walk came from, the node,
and where its back link points instead. -/
structure BrokenLink where
  prev : Nat
  node : Nat
  back : Nat
deriving DecidableEq, Repr

/-- Every exception the iterator can raise, with the data of its message.
The bad-argument exceptions come from `crash/exceptions.py`. -/
inductive ListError where
  | argumentType
  | unexpectedType
  | headNull
  | firstNull (link : LinkName)
  | nullLink (node : Nat) (link : LinkName)
  | brokenLink (broken : BrokenLink) (nextName prevName : LinkName)
  | cycle
  | headUnreadable (head : Nat)
  | nodeUnreadable (node head : Nat) (lastGood : Option Nat)
deriving DecidableEq, Repr

/-- The exceptions of `list_empty`: `int` of an address that is `None`, a link that can not be
read, and an argument without one. -/
inductive ListEmptyError where
  | noAddress
  | unreadable (head : Nat)
  | noLink
deriving DecidableEq, Repr

/-- The Python classes of these exceptions. -/
inductive ListErrorClass where
  | argumentTypeError
  | unexpectedGDBTypeError
  | corruptListError
  | listCycleError
  | bufferError
deriving DecidableEq, Repr

def ListError.errorClass : ListError -> ListErrorClass
  | .argumentType => .argumentTypeError
  | .unexpectedType => .unexpectedGDBTypeError
  | .headNull => .corruptListError
  | .firstNull _ => .corruptListError
  | .nullLink _ _ => .corruptListError
  | .brokenLink _ _ _ => .corruptListError
  | .cycle => .listCycleError
  | .headUnreadable _ => .bufferError
  | .nodeUnreadable _ _ _ => .bufferError

/-- `ListCycleError` is the only subclass of `CorruptListError`. -/
def ListErrorClass.isCorruptListError : ListErrorClass -> Bool
  | .corruptListError => true
  | .listCycleError => true
  | _ => false

def LinkName.text : LinkName -> String
  | .next => "next"
  | .prev => "prev"

/-- The `#x` format of an address. -/
def hexAddress (address : Nat) : String :=
  "0x" ++ String.ofList (Nat.toDigits 16 address)

/-- The message gdb attaches to a failed read. -/
def unreadableText (address : Nat) : String :=
  "Cannot access memory at address " ++ hexAddress address

def BrokenLink.text (broken : BrokenLink) (nextName prevName : LinkName) : String :=
  "broken " ++ prevName.text ++ " link " ++ hexAddress broken.prev ++ " -" ++ nextName.text ++
    "-> " ++ hexAddress broken.node ++ " -" ++ prevName.text ++ "-> " ++ hexAddress broken.back

/-- The message of an exception.  The way gdb prints an address with its
symbol is left to `printed`, and the texts of the two argument errors depend
on the Python class of the argument, named by `given` and `expected`. -/
def ListError.text (printed : Nat -> String) (given expected : String) : ListError -> String
  | .argumentType => "cannot convert argument `list_head' of type " ++ given ++ " to " ++ expected
  | .unexpectedType =>
      "expected gdb.Type `list_head' to describe `" ++ given ++ "' not `" ++ expected ++ "'"
  | .headNull => "list_head is NULL pointer."
  | .firstNull link => link.text ++ " pointer is NULL"
  | .nullLink node link => printed node ++ " -> " ++ link.text ++ " pointer is NULL"
  | .brokenLink broken nextName prevName => broken.text nextName prevName
  | .cycle => "Cycle in list detected."
  | .headUnreadable head =>
      "Failed to read list_head " ++ hexAddress head ++ ": " ++ unreadableText head
  | .nodeUnreadable node head lastGood =>
      "Failed to read list_head " ++ hexAddress node ++ " in list " ++ hexAddress head ++
        ", last good list_head " ++ lastGood.elim "(none)" hexAddress ++ ": " ++ unreadableText node

/-- What the consumer of the generator can see: yielded nodes, and broken
links printed to the console. -/
inductive ListEvent where
  | yielded (node : Nat)
  | printed (broken : BrokenLink)
deriving DecidableEq, Repr

/-- The nodes among the events, in order. -/
def yieldedNodes (events : List ListEvent) : List Nat :=
  events.filterMap fun event =>
    match event with
    | .yielded node => some node
    | .printed _ => none

@[simp] theorem yieldedNodes_append (first second : List ListEvent) :
    yieldedNodes (first ++ second) = yieldedNodes first ++ yieldedNodes second :=
  List.filterMap_append

/-- The loop-carried variables of `list_for_each`. -/
structure ListWalk where
  node : Nat
  prev : Nat
  fast : Option Nat
  visited : Finset Nat
  pendingException : Option ListError
  lastGoodAddr : Option Nat

/-- Back at the head, the pending exception is raised after all. -/
def ListWalk.ending (walk : ListWalk) : Ending ListError :=
  match walk.pendingException with
  | none => .completed
  | some error => .raised error

/-- The state of the cycle detector after some advances. -/
inductive Hare where
  | caught
  | running (fast : Nat)
  | stopped
deriving DecidableEq, Repr

section Iterator

variable (memory : MemoryImage ListHead)

/-- The successor of an address along a link, if it can be read. -/
def followLink (link : LinkName) (address : Nat) : Option Nat :=
  (memory.read address).map fun node => node.link link

/-- One advance of the detector.  An unreadable element stops it. -/
def hareAdvance (link : LinkName) (node fast : Nat) : Hare :=
  match followLink memory link fast with
  | none => .stopped
  | some further => if node = further then .caught else .running further

/-- The two advances of one iteration. -/
def hareAdvanceTwice (link : LinkName) (node fast : Nat) : Hare :=
  match hareAdvance memory link node fast with
  | .running further => hareAdvance memory link node further
  | ended => ended

/-- The detector part of an iteration; a detector that is not running stays
as it is. -/
def hareTurn (link : LinkName) (node : Nat) : Option Nat -> Hare
  | none => .stopped
  | some fast => hareAdvanceTwice memory link node fast

/-- The back-link test of an iteration.  A broken link replaces the pending
exception and starts the detector if neither detector is running. -/
def checkBackLink (options : ListOptions) (cell : ListHead) (walk : ListWalk) :
    List ListEvent × ListWalk :=
  let back := cell.link options.prevName
  if walk.prev ≠ back then
    let link : BrokenLink := ⟨walk.prev, walk.node, back⟩
    (if options.printBrokenLinks then [.printed link] else [],
      { walk with
        pendingException := some (.brokenLink link options.nextName options.prevName)
        fast := if options.exactCycles = false ∧ walk.fast = none then some walk.node else walk.fast })
  else ([], walk)

/-- The end of an iteration: a null link is fatal, any other is followed. -/
def moveOn (options : ListOptions) (cell : ListHead) (fast : Option Nat) (walk : ListWalk) :
    Next ListWalk ListError :=
  if cell.link options.nextName = 0 then
    .stop (.raised (.nullLink walk.node options.nextName))
  else
    .proceed { walk with
      node := cell.link options.nextName
      prev := walk.node
      fast := fast
      lastGoodAddr := some walk.node }

/-- One iteration of the loop at a node other than the head. -/
def listHeadVisit (options : ListOptions) (head : Nat) (walk : ListWalk) :
    List ListEvent × Next ListWalk ListError :=
  if options.exactCycles ∧ walk.node ∈ walk.visited then
    ([], .stop (.raised .cycle))
  else
    let marked := if options.exactCycles then { walk with visited := insert walk.node walk.visited }
      else walk
    match memory.read walk.node with
    | none => ([], .stop (.raised (.nodeUnreadable walk.node head walk.lastGoodAddr)))
    | some cell =>
        let checked := checkBackLink options cell marked
        let events := checked.1 ++ [.yielded walk.node]
        match hareTurn memory options.nextName walk.node checked.2.fast with
        | .caught => (events, .stop (.raised .cycle))
        | .running further => (events, moveOn options cell (some further) checked.2)
        | .stopped => (events, moveOn options cell none checked.2)

/-- The `while` loop with its exit at the head. -/
def listWalkStep (options : ListOptions) (head : Nat) (walk : ListWalk) :
    List ListEvent × Next ListWalk ListError :=
  if walk.node = head then ([], .stop walk.ending) else listHeadVisit memory options head walk

/-- The loop variables before the first iteration. -/
def listWalkStart (head first : Nat) : ListWalk where
  node := first
  prev := head
  fast := none
  visited := ∅
  pendingException := none
  lastGoodAddr := none

/-- The generator on a checked head: null test, optional yield of the head,
the first link, and the loop. -/
def listHeadForEach (options : ListOptions) (head fuel : Nat) :
    Option (Run ListEvent ListError) :=
  if head = 0 then
    some ⟨[], .raised .headNull⟩
  else
    let opening := if options.includeHead then [ListEvent.yielded head] else []
    match followLink memory options.nextName head with
    | none => some ⟨opening, .raised (.headUnreadable head)⟩
    | some first =>
        if first = 0 then
          some ⟨opening, .raised (.firstNull options.nextName)⟩
        else
          (exhaust (listWalkStep memory options head) fuel (listWalkStart head first)).map
            (Run.after opening)

/-- `list_for_each`, run to exhaustion with some fuel. -/
def listForEach (options : ListOptions) (argument : ListArgument) (fuel : Nat) :
    Option (Run ListEvent ListError) :=
  match argument with
  | .notValue => some ⟨[], .raised .argumentType⟩
  | .otherType => some ⟨[], .raised .unexpectedType⟩
  | .listHead head => listHeadForEach memory options head fuel
  | .listHeadPointer head _ => listHeadForEach memory options head fuel

/-- `list_for_each_entry` yields the containing object of every node, which
starts `offset` bytes before it.  Only the yielded addresses differ. -/
def listForEachEntry (options : ListOptions) (argument : ListArgument) (offset : Int) (fuel : Nat) :
    Option (List Int × Ending ListError) :=
  (listForEach memory options argument fuel).map fun run =>
    ((yieldedNodes run.events).map (fun node : Nat => (node : Int) - offset), run.ending)

/-- `list_empty`.  The type of the argument is not checked, but other values have no such link.
The address of the argument is taken first, and a pointer that is not stored has none. -/
def listEmpty (argument : ListArgument) : Except ListEmptyError Bool :=
  match argument with
  | .listHead addr => linksTo addr
  | .listHeadPointer addr true => linksTo addr
  | .listHeadPointer _ false => .error .noAddress
  | .notValue => .error .noLink
  | .otherType => .error .noLink
where
  /-- The comparison of an address with the first link there. -/
  linksTo (addr : Nat) : Except ListEmptyError Bool :=
    match followLink memory .next addr with
    | none => .error (.unreadable addr)
    | some next => .ok (addr == next)

end Iterator
end Types
end CrashPython

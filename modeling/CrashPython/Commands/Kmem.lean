import CrashPython.Library.Script
import CrashPython.Slab.CacheRegistry
import CrashPython.Slab.SlabLookup
import CrashPython.Slab.SlabObjects
import CrashPython.Slab.SlubQuiet

namespace CrashPython
namespace Commands

open Library Types Util Slab

/-!
# The command `kmem` for SLUB caches

With a name or an address of a cache the command checks or lists the cache.  Any other address is
looked up: that of a `struct page`, or one in an object of a slab.  For an object the command says
whether it is allocated, and with `-S` it goes on to list all objects of the slab.

The verdict and the list come from different functions.  `obj_in_use` has the cache processed first,
and `print_objects` does not; the wrapper of the slab remembers the free objects between the two.
-/

/-- The memory of the command.  The attribute `object_size` of a cache is only printed. -/
structure KmemTarget extends SlubLookup where
  objectSize : Nat -> Nat

/-- A printed line.  The number of a processor stands for the text about its freelist. -/
inductive InfoLine where
  | checkingAll
  | cacheName (name : String)
  | checking (query : PyString)
  | checkingDone
  | listingAll
  | structPage (addr : Int) (page : Nat) (pfn : Int)
  | pageSlab (name : String) (slab : Nat) (role : SlabSLUB.SlabRole)
  | verdict (isUsed : Bool) (details : Option Nat) (obj offset : Int) (objsize : Nat) (name : String)
      (slab : Nat) (role : SlabSLUB.SlabRole)
  | invalid (slab : Nat) (name : String) (obj : Int) (reason : Option SlabSLUB.Surroundings)
  | blank
  | slabDetails (slab : Nat) (role : SlabSLUB.SlabRole) (nrObjects nrInuse : Nat) (nrFree base : Int)
  | objectsTitle
  | freeObject (obj : Int) (cpu : Option Nat)
  | allocatedObject (obj : Int)
deriving DecidableEq, Repr

/-- What can stop the command: code on the caches, or one of its own exceptions. -/
inductive KmemStop where
  | halt (halt : Halt)
  | page (error : PageError)
  | noAddress
  | notNumeric
  | notFound (query : PyString)
deriving DecidableEq, Repr

/-- The messages of `CommandLineError` and `CommandError`. -/
def KmemStop.commandText : KmemStop -> Option String
  | .halt _ => none
  | .page _ => none
  | .noAddress => some "no address specified"
  | .notNumeric => some "address must be numeric"
  | .notFound query => some ("Kmem cache not found: '" ++ String.ofList query ++ "' is not a valid name of a " ++
      "kmem cache or an address known to the kmem subsystem.")

/-- The objects of the caches, and what was printed. -/
structure KmemState where
  world : SlubWorld
  printed : List InfoLine := []

/-- Code of the command. -/
abbrev KmemM : Type -> Type :=
  EStateM KmemStop KmemState

/-- Code on the caches. -/
def within {Value : Type} (procedure : SlubM Value) : KmemM Value := fun state =>
  match procedure.run state.world with
  | .ok value world => .ok value { state with world := world }
  | .error halt world => .error (.halt halt) { state with world := world }

/-- `print`. -/
def printLines (lines : List InfoLine) : KmemM PUnit :=
  modify fun state => { state with printed := state.printed ++ lines }

/-- The test `obj in self.free`. -/
def freeAmong (free : Finset Nat) (obj : Int) : Bool :=
  decide (0 ≤ obj) && decide (obj.toNat ∈ free)

/-- The processor on whose freelist an object was found. -/
def cachedOn (known : SlubTables) (obj : Int) : Option Nat :=
  if obj < 0 then none else known.cpuFreelists.lookup obj.toNat

/-- The line of an object in `print_objects`. -/
def objectLine (free : Finset Nat) (known : SlubTables) (obj : Int) : InfoLine :=
  match cachedOn known obj with
  | some cpu => .freeObject obj (some cpu)
  | none => if freeAmong free obj then .freeObject obj none else .allocatedObject obj

section Slabs

variable (system : SlubSystem) (fuel : Nat)

/-- `obj_in_use`, with the wrapper of the slab after it. -/
def objInUse (slab : SlabSLUB) (obj : Int) : SlubM (SlabSLUB × Bool × Option Nat) := do
  KmemCacheSLUB.slubProcessOnce system fuel slab.kmemCache
  let populated <- SlabSLUB.populateFree system slab
  if freeAmong populated.free obj then return (populated, false, none)
  else
    let known <- slab.kmemCache.tables
    match cachedOn known obj with
    | some cpu => return (populated, false, some cpu)
    | none => return (populated, true, none)

/-- `print_objects`. -/
def printObjects (slab : SlabSLUB) : SlubM (List InfoLine) := do
  let populated <- SlabSLUB.populateFree system slab
  let known <- slab.kmemCache.tables
  return .objectsTitle :: (slab.getObjects system).map (objectLine populated.free known)

/-- The lines about a slab that `-S` adds. -/
def showSlab (slab : SlabSLUB) : KmemM PUnit := do
  printLines [.blank]
  let role <- within (SlabSLUB.slabRole system fuel slab)
  printLines [.slabDetails slab.address role slab.nrObjects slab.nrInuse slab.nrFree (slab.baseAddress system)]
  let lines <- within (printObjects system slab)
  printLines lines

end Slabs

namespace KmemTarget

variable (target : KmemTarget) (fuel : Nat)

/-- `slab_from_obj_addr`, for any integer. -/
def slabFromObjAddr (addr : Int) : Except SlabException (Option SlabSLUB) := do
  let page <- fetched (Page.pfnToPage target.system.pageClass target.pages
    ((addr - target.system.pageClass.directmapBase) / target.system.pageClass.pageSize))
  let head <- fetched (page.compoundHead target.system.pageClass)
  if head.isSlab target.system.pageClass then (target.slabFromPage head).map some else return none

/-- The verdict about an address in a slab.  It returns the wrapper of the slab. -/
def judge (slab : SlabSLUB) (addr : Int) : KmemM SlabSLUB := do
  let (valid, obj, reason) <- within (raising (halting (slab.containsObj target.system addr)))
  if valid then do
    let (populated, isUsed, details) <- within (objInUse target.system fuel slab obj)
    let role <- within (SlabSLUB.slabRole target.system fuel populated)
    printLines [.verdict isUsed details obj (addr - obj) (target.objectSize slab.kmemCache.address)
      slab.kmemCache.name slab.address role]
    return populated
  else do
    printLines [.invalid slab.address slab.kmemCache.name obj reason]
    return slab

/-- The part of `execute` about a slab that has an object. -/
def describe (slablist : Bool) (slab : SlabSLUB) (addr : Int) : KmemM PUnit := do
  let judged <- target.judge fuel slab addr
  if slablist then showSlab target.system fuel judged else pure ⟨⟩

/-- The part of `execute` about a `struct page`. -/
def describePage (slabcheck slablist : Bool) (page : Page target.pages) (addr : Int) : KmemM PUnit := do
  printLines [.structPage addr page.address page.pfn]
  let head <- within (peek (page.compoundHead target.system.pageClass))
  if head.isSlab target.system.pageClass then do
    let slab <- within (raising (halting (target.slabFromPage page)))
    if slabcheck || slablist then do
      let role <- within (SlabSLUB.slabRole target.system fuel slab)
      printLines [.pageSlab slab.kmemCache.name slab.address role]
      if slablist then showSlab target.system fuel slab else pure ⟨⟩
    else pure ⟨⟩
  else pure ⟨⟩

/-- The part of `execute` about an address. -/
def executeAddress (slabcheck slablist : Bool) (query : PyString) (addr : Int) : KmemM PUnit :=
  match Page.safePageFromPageAddr target.system.pageClass target.pages target.maxPfn addr with
  | .error error => throw (.page error)
  | .ok (some page) => target.describePage fuel slabcheck slablist page addr
  | .ok none => do
      let found <- within (raising (halting (target.slabFromObjAddr addr)))
      match found with
      | none => throw (.notFound query)
      | some slab => target.describe fuel slablist slab addr

/-- `execute` without `-z` and `-V`.  The option `-S` may be repeated, and its number is the
verbosity of a list of caches. -/
def execute (limit : Nat) (known : KmemCaches KmemCacheSLUB) (slabcheck : Bool) (slablist : Nat)
    (address : Option PyString) : KmemM PUnit :=
  match address with
  | none =>
      if slabcheck then do
        printLines [.checkingAll]
        known.kmemCacheGetAll.forM fun cache => do
          printLines [.cacheName cache.name]
          within (cache.checkAll target.system fuel)
        printLines [.checkingDone]
      else if slablist ≠ 0 then do
        printLines [.listingAll]
        known.kmemCacheGetAll.forM fun cache => within (cache.listAll target.system fuel slablist)
      else throw .noAddress
  | some query =>
      match (if slabcheck || slablist ≠ 0 then known.findKmemCache limit query else none) with
      | some cache =>
          if slabcheck then do
            printLines [.checking query]
            within (cache.checkAll target.system fuel)
            printLines [.checkingDone]
          else within (cache.listAll target.system fuel slablist)
      | none =>
          if query = [] then throw .noAddress
          else
            match safeInt limit query with
            | none => throw .notNumeric
            | some addr => target.executeAddress fuel slabcheck (slablist ≠ 0) query addr

end KmemTarget

/-! ## What the functions leave behind -/

variable {system : SlubSystem} {fuel : Nat} {slab : SlabSLUB} {before after : KmemState}

theorem within_ok {Value : Type} {procedure : SlubM Value} {value : Value}
    (ran : (within procedure).run before = .ok value after) :
    procedure.run before.world = .ok value after.world ∧ after.printed = before.printed := by
  change (match procedure.run before.world with
    | .ok value world => _
    | .error halt world => _ : EStateM.Result KmemStop KmemState Value) = _ at ran
  cases done : procedure.run before.world with
  | error halt world =>
      rw [done] at ran
      cases ran
  | ok found world =>
      rw [done] at ran
      cases ran
      exact ⟨rfl, rfl⟩

theorem printLines_ok {lines : List InfoLine} {value : PUnit}
    (ran : (printLines lines).run before = .ok value after) :
    after.world = before.world ∧ after.printed = before.printed ++ lines := by
  cases ran
  exact ⟨rfl, rfl⟩

/-- A cache is processed after `slub_process_once`. -/
theorem slubProcessOnce_ok {cache : KmemCacheSLUB} {world later : SlubWorld} {value : PUnit}
    (ran : (KmemCacheSLUB.slubProcessOnce system fuel cache).run world = .ok value later) :
    (later.tables cache.address).processed = true := by
  rcases (KmemCacheSLUB.slubProcessOnce_enacts system cache fuel _).of_ok rfl ran with ⟨_, _, _, processed⟩
  exact processed

/-- A processed cache is not processed again. -/
theorem slubProcessOnce_processed {cache : KmemCacheSLUB} {world : SlubWorld}
    (processed : (world.tables cache.address).processed = true) :
    (KmemCacheSLUB.slubProcessOnce system fuel cache).run world = .ok ⟨⟩ world := by
  change (if (world.tables cache.address).processed then (pure ⟨⟩ : SlubM PUnit) else _).run world = _
  rw [if_pos processed]
  rfl

/-- The free objects of a slab are known after `populate_free`. -/
theorem populateFree_ok {populated : SlabSLUB} {world later : SlubWorld}
    (ran : (SlabSLUB.populateFree system slab).run world = .ok populated later) :
    SlabSLUB.Alike slab populated ∧ populated.freePopulated = true ∧ later.tables = world.tables := by
  cases fresh : slab.freePopulated with
  | true =>
      rw [SlabSLUB.populateFree, fresh, if_pos rfl] at ran
      cases ran
      exact ⟨⟨rfl, rfl, rfl, rfl⟩, fresh, rfl⟩
  | false =>
      rcases (SlabSLUB.populateFree_enacts system fresh world.tables).of_ok rfl ran with
        ⟨_, _, _, alike, _, same⟩
      rw [SlabSLUB.populateFree, fresh, if_neg Bool.false_ne_true] at ran
      rcases run_bind_ok ran with ⟨found, middle, _, last⟩
      cases last
      exact ⟨alike, rfl, same⟩

/-- They are not read again. -/
theorem populateFree_populated {world : SlubWorld} (populated : slab.freePopulated = true) :
    (SlabSLUB.populateFree system slab).run world = .ok slab world := by
  rw [SlabSLUB.populateFree, populated, if_pos rfl]
  rfl

/-- A wrapper with its free objects, of a processed cache. -/
structure Ready (slab : SlabSLUB) (world : SlubWorld) : Prop where
  populated : slab.freePopulated = true
  processed : (world.tables slab.kmemCache.address).processed = true

/-- The answer of `obj_in_use` from what is known. -/
def answerFor (free : Finset Nat) (known : SlubTables) (obj : Int) : Bool × Option Nat :=
  if freeAmong free obj then (false, none)
  else
    match cachedOn known obj with
    | some cpu => (false, some cpu)
    | none => (true, none)

/-- What `obj_in_use` leaves behind. -/
theorem objInUse_ok {obj : Int} {judged : SlabSLUB} {answer : Bool × Option Nat} {world later : SlubWorld}
    (ran : (objInUse system fuel slab obj).run world = .ok (judged, answer) later) :
    SlabSLUB.Alike slab judged ∧ Ready judged later ∧
      answer = answerFor judged.free (later.tables slab.kmemCache.address) obj := by
  rcases run_bind_ok ran with ⟨_, middle, processed, rest⟩
  rcases run_bind_ok rest with ⟨populated, reached, filled, last⟩
  rcases populateFree_ok filled with ⟨alike, full, same⟩
  have done := slubProcessOnce_ok processed
  rw [answerFor]
  by_cases free : freeAmong populated.free obj = true
  · rw [if_pos free] at last
    cases last
    rw [if_pos free]
    refine ⟨alike, ⟨full, ?_⟩, rfl⟩
    rw [alike.kmemCache, same]
    exact done
  · rw [if_neg free] at last
    change (match cachedOn (reached.tables slab.kmemCache.address) obj with
      | some cpu => (pure (populated, false, some cpu) : SlubM _)
      | none => pure (populated, true, none)).run reached = _ at last
    cases cached : cachedOn (reached.tables slab.kmemCache.address) obj with
    | some cpu =>
        rw [cached] at last
        cases last
        rw [if_neg free, cached]
        refine ⟨alike, ⟨full, ?_⟩, rfl⟩
        rw [alike.kmemCache, same]
        exact done
    | none =>
        rw [cached] at last
        cases last
        rw [if_neg free, cached]
        refine ⟨alike, ⟨full, ?_⟩, rfl⟩
        rw [alike.kmemCache, same]
        exact done

/-- The role of a slab of a processed cache is looked up. -/
theorem slabRole_ready {role : SlabSLUB.SlabRole} {world later : SlubWorld} (ready : Ready slab world)
    (ran : (SlabSLUB.slabRole system fuel slab).run world = .ok role later) : later = world := by
  rcases run_bind_ok ran with ⟨_, middle, processed, rest⟩
  rw [slubProcessOnce_processed ready.processed] at processed
  cases processed
  rcases run_bind_ok rest with ⟨known, reached, looked, last⟩
  cases looked
  split at last
  · cases last
    rfl
  · cases last
    rfl
  · split at last
    · cases last
      rfl
    · cases last
      rfl

/-- The lines of `-S` for a slab.  Where its free objects were known before, the list is made from
them. -/
theorem showSlab_ok {value : PUnit} (ran : (showSlab system fuel slab).run before = .ok value after) :
    Exists fun role : SlabSLUB.SlabRole => Exists fun free : Finset Nat => Exists fun known : SlubTables =>
      after.printed = before.printed ++ ([.blank,
        .slabDetails slab.address role slab.nrObjects slab.nrInuse slab.nrFree (slab.baseAddress system),
        .objectsTitle] ++ (slab.getObjects system).map (objectLine free known)) ∧
      (Ready slab before.world -> free = slab.free ∧ known = before.world.tables slab.kmemCache.address) := by
  rcases run_bind_ok ran with ⟨_, first, titled, second⟩
  rcases run_bind_ok second with ⟨role, third, looked, rest⟩
  rcases run_bind_ok rest with ⟨_, fourth, detailed, fifth⟩
  rcases run_bind_ok fifth with ⟨lines, sixth, listed, last⟩
  rcases printLines_ok titled with ⟨world, printed⟩
  rcases within_ok looked with ⟨roleRan, unprinted⟩
  rcases printLines_ok detailed with ⟨worldToo, printedToo⟩
  rcases within_ok listed with ⟨objectsRan, silent⟩
  rcases printLines_ok last with ⟨_, final⟩
  rcases run_bind_ok objectsRan with ⟨populated, reached, filled, afterwards⟩
  rcases run_bind_ok afterwards with ⟨known, there, consulted, done⟩
  rcases EStateM.Result.ok.inj consulted with ⟨rfl, rfl⟩
  rcases EStateM.Result.ok.inj done with ⟨shown, _⟩
  refine ⟨role, populated.free, reached.tables slab.kmemCache.address, ?_, fun ready => ?_⟩
  · rw [final, ← shown, silent, printedToo, unprinted, printed]
    simp only [List.append_assoc, List.cons_append, List.nil_append]
  · rw [populateFree_populated ready.populated] at filled
    cases filled
    have same := slabRole_ready (world.symm ▸ ready) roleRan
    rw [worldToo, same, world]
    exact ⟨rfl, rfl⟩

theorem raising_ok {Value : Type} {read : Except SlabException Value} {value : Value} {world later : SlubWorld}
    (ran : (raising (halting read) : SlubM Value).run world = .ok value later) : read = .ok value := by
  cases read with
  | error error => cases ran
  | ok found =>
      cases ran
      rfl

/-- The verdict is the answer from what is known after it. -/
theorem judge_ok {target : KmemTarget} {addr : Int} {judged : SlabSLUB}
    (ran : (target.judge fuel slab addr).run before = .ok judged after) :
    (Exists fun obj : Int => Exists fun reason : Option SlabSLUB.Surroundings =>
      slab.containsObj target.system addr = .ok (false, obj, reason) ∧
        after.printed = before.printed ++ [.invalid slab.address slab.kmemCache.name obj reason]) ∨
    Exists fun obj : Int => Exists fun role : SlabSLUB.SlabRole => Exists fun answer : Bool × Option Nat =>
      (Exists fun reason : Option SlabSLUB.Surroundings =>
        slab.containsObj target.system addr = .ok (true, obj, reason)) ∧ SlabSLUB.Alike slab judged ∧
        Ready judged after.world ∧
          answer = answerFor judged.free (after.world.tables slab.kmemCache.address) obj ∧
            after.printed = before.printed ++ [.verdict answer.1 answer.2 obj (addr - obj)
              (target.objectSize slab.kmemCache.address) slab.kmemCache.name slab.address role] := by
  rcases run_bind_ok ran with ⟨⟨valid, obj, reason⟩, first, contains, rest⟩
  rcases within_ok contains with ⟨found, unprinted⟩
  cases valid with
  | false =>
      rcases run_bind_ok rest with ⟨_, second, printed, last⟩
      cases last
      rcases printLines_ok printed with ⟨_, final⟩
      refine .inl ⟨obj, reason, raising_ok found, ?_⟩
      rw [final, unprinted]
  | true =>
      rcases run_bind_ok rest with ⟨⟨populated, isUsed, details⟩, second, used, further⟩
      rcases run_bind_ok further with ⟨role, third, looked, later⟩
      rcases run_bind_ok later with ⟨_, fourth, printed, last⟩
      cases last
      rcases within_ok used with ⟨usedRan, usedUnprinted⟩
      rcases within_ok looked with ⟨roleRan, roleUnprinted⟩
      rcases printLines_ok printed with ⟨world, final⟩
      rcases objInUse_ok usedRan with ⟨alike, ready, answer⟩
      have same := slabRole_ready ready roleRan
      refine .inr ⟨obj, role, (isUsed, details), ⟨reason, ?_⟩, alike, ?_, ?_, ?_⟩
      · exact raising_ok found
      · rw [world, same]
        exact ready
      · rw [world, same]
        exact answer
      · rw [final, roleUnprinted, usedUnprinted, unprinted]

/-! ## The verdict and the list -/

/-- The line of an object in the list says what the answer about it is. -/
theorem objectLine_eq (free : Finset Nat) (known : SlubTables) (obj : Int) : objectLine free known obj =
    if (answerFor free known obj).1 then .allocatedObject obj else .freeObject obj (cachedOn known obj) := by
  rw [objectLine, answerFor]
  cases cached : cachedOn known obj with
  | some cpu =>
      by_cases member : freeAmong free obj = true
      · rw [if_pos member, if_pos member]
        rfl
      · rw [if_neg member, if_neg member]
        rfl
  | none =>
      by_cases member : freeAmong free obj = true
      · rw [if_pos member, if_pos member]
        rfl
      · rw [if_neg member, if_neg member]
        rfl

theorem cachedOn_of_details {free : Finset Nat} {known : SlubTables} {obj : Int} {cpu : Nat}
    (details : (answerFor free known obj).2 = some cpu) : cachedOn known obj = some cpu := by
  rw [answerFor] at details
  by_cases member : freeAmong free obj = true
  · rw [if_pos member] at details
    cases details
  · rw [if_neg member] at details
    cases cached : cachedOn known obj with
    | some other =>
        rw [cached] at details
        exact details
    | none =>
        rw [cached] at details
        cases details

/-- The list of the objects has the object of a verdict, and says the same of it. -/
structure Confirms (printed : List InfoLine) (isUsed : Bool) (details : Option Nat) (obj : Int) : Prop where
  allocated : .allocatedObject obj ∈ printed <-> isUsed = true
  free : (Exists fun cpu : Option Nat => .freeObject obj cpu ∈ printed) <-> isUsed = false
  onCpu : forall cpu, details = some cpu -> .freeObject obj (some cpu) ∈ printed

/-- Lines of objects among other lines. -/
theorem confirms_of_lines {free : Finset Nat} {known : SlubTables} {objs : List Int} {obj : Int}
    {others : List InfoLine} (member : obj ∈ objs)
    (apart : forall other cpu, .freeObject other cpu ∉ others ∧ .allocatedObject other ∉ others) :
    Confirms (others ++ objs.map (objectLine free known)) (answerFor free known obj).1
      (answerFor free known obj).2 obj := by
  have here : objectLine free known obj ∈ others ++ objs.map (objectLine free known) :=
    List.mem_append_right _ (List.mem_map_of_mem member)
  have only : forall line, line ∈ others ++ objs.map (objectLine free known) -> line ∉ others ->
      Exists fun other : Int => line = objectLine free known other := by
    intro line listed outside
    rcases List.mem_append.mp listed with impossible | inside
    · exact False.elim (outside impossible)
    · rcases List.mem_map.mp inside with ⟨other, _, same⟩
      exact ⟨other, same.symm⟩
  refine ⟨⟨fun listed => ?_, fun used => ?_⟩, ⟨?_, fun unused => ?_⟩, fun cpu details => ?_⟩
  · rcases only _ listed (apart obj none).2 with ⟨other, same⟩
    rw [objectLine_eq] at same
    cases used : (answerFor free known other).1 with
    | true =>
        rw [used, if_pos rfl] at same
        cases same
        exact used
    | false =>
        rw [used, if_neg Bool.false_ne_true] at same
        cases same
  · rw [objectLine_eq, if_pos used] at here
    exact here
  · rintro ⟨cpu, listed⟩
    rcases only _ listed (apart obj cpu).1 with ⟨other, same⟩
    rw [objectLine_eq] at same
    cases used : (answerFor free known other).1 with
    | true =>
        rw [used, if_pos rfl] at same
        cases same
    | false =>
        rw [used, if_neg Bool.false_ne_true] at same
        cases same
        exact used
  · rw [objectLine_eq, unused, if_neg Bool.false_ne_true] at here
    exact ⟨_, here⟩
  · have unused : (answerFor free known obj).1 = false := by
      rw [answerFor] at details ⊢
      by_cases inside : freeAmong free obj = true
      · rw [if_pos inside]
      · rw [if_neg inside] at details ⊢
        cases cached : cachedOn known obj with
        | some other => rfl
        | none =>
            rw [cached] at details
            cases details
    rw [objectLine_eq, unused, if_neg Bool.false_ne_true, cachedOn_of_details details] at here
    exact here

/-- An object that an address is found to be in is one of the slab. -/
theorem containsObj_mem {page : Nat} {cache : KmemCacheSLUB} {addr obj : Int}
    {reason : Option SlabSLUB.Surroundings} (made : SlabSLUB.make system page cache = .ok slab)
    (contains : slab.containsObj system addr = .ok (true, obj, reason)) : obj ∈ slab.getObjects system := by
  rcases except_bind_ok.mp contains with ⟨found, located, answer⟩
  cases found with
  | none => cases answer
  | some start =>
      have same : start = obj := by
        by_cases zero : start = 0
        · simp only [zero, if_pos] at answer
          cases answer
        · simp only [if_neg zero] at answer
          by_cases low : addr < start
          · simp only [if_pos low] at answer
            cases answer
          · simp only [if_neg low] at answer
            by_cases high : start + slab.kmemCache.inuse < addr
            · simp only [if_pos high] at answer
              cases answer
            · simp only [if_neg high] at answer
              cases answer
              rfl
      rcases Nat.eq_zero_or_pos slab.kmemCache.size with zero | sized
      · rw [SlabSLUB.findObj] at located
        by_cases low : addr < slab.baseAddress system
        · rw [if_pos low] at located
          cases located
        · rw [if_neg low] at located
          rcases except_bind_ok.mp located with ⟨count, _, rest⟩
          rw [if_pos zero] at rest
          cases rest
      · rw [SlabSLUB.findObj_eq made sized] at located
        rcases Option.map_eq_some_iff.mp (Except.ok.inj located) with ⟨idx, within, placed⟩
        rw [SlabSLUB.mem_getObjects]
        exact ⟨idx, (SlotRow.find_eq_some.mp within).1, placed.trans same⟩

/-- A line that no verdict is. -/
def Unjudged (line : InfoLine) : Prop :=
  forall isUsed details obj offset objsize name slab role,
    line ≠ .verdict isUsed details obj offset objsize name slab role

theorem objectLine_unjudged (free : Finset Nat) (known : SlubTables) (obj : Int) :
    Unjudged (objectLine free known obj) := by
  intro isUsed details other offset objsize name slab role
  rw [objectLine_eq]
  cases (answerFor free known obj).1 <;> exact fun impossible => (by cases impossible)

theorem showSlab_unjudged {value : PUnit} (ran : (showSlab system fuel slab).run before = .ok value after) :
    Exists fun lines : List InfoLine => after.printed = before.printed ++ lines ∧
      forall line, line ∈ lines -> Unjudged line := by
  rcases showSlab_ok ran with ⟨role, free, known, printed, _⟩
  refine ⟨_, printed, List.forall_mem_append.mpr ⟨?_, ?_⟩⟩
  · intro line member
    simp only [List.mem_cons, List.not_mem_nil, or_false] at member
    rcases member with rfl | rfl | rfl <;> exact fun _ _ _ _ _ _ _ _ impossible => (by cases impossible)
  · intro line member
    rcases List.mem_map.mp member with ⟨obj, _, same⟩
    rw [← same]
    exact objectLine_unjudged free known obj

/-- The lines of `-S` confirm the verdict before them. -/
theorem describe_confirms {target : KmemTarget} {page : Nat} {cache : KmemCacheSLUB} {addr : Int} {value : PUnit}
    (made : SlabSLUB.make target.system page cache = .ok slab) (silent : before.printed = [])
    (ran : (target.describe fuel true slab addr).run before = .ok value after)
    {isUsed : Bool} {details : Option Nat} {obj offset : Int} {objsize : Nat} {name : String} {number : Nat}
    {role : SlabSLUB.SlabRole}
    (judged : .verdict isUsed details obj offset objsize name number role ∈ after.printed) :
    Confirms after.printed isUsed details obj := by
  rcases run_bind_ok ran with ⟨wrapper, middle, first, second⟩
  rw [if_pos rfl] at second
  rcases judge_ok first with ⟨other, reason, _, printed⟩ | ⟨found, place, answer, ⟨reason, contains⟩, alike, ready,
    same, printed⟩
  · rcases showSlab_unjudged second with ⟨lines, shown, unjudged⟩
    rw [shown, printed, silent] at judged
    rcases List.mem_append.mp judged with invalid | later
    · cases List.mem_singleton.mp invalid
    · exact False.elim (unjudged _ later _ _ _ _ _ _ _ _ rfl)
  · rcases showSlab_ok second with ⟨shownRole, free, known, shown, remembered⟩
    rcases remembered ready with ⟨rfl, rfl⟩
    have objects : wrapper.getObjects target.system = slab.getObjects target.system := by
      simp only [SlabSLUB.getObjects, SlabSLUB.baseAddress, alike.address, alike.kmemCache, alike.nrObjects]
    rw [shown, printed, silent, List.nil_append, ← List.append_assoc] at judged ⊢
    have line : isUsed = answer.1 ∧ details = answer.2 ∧ obj = found := by
      rcases List.mem_append.mp judged with others | listed
      · simp only [List.mem_append, List.mem_cons, List.not_mem_nil, or_false] at others
        rcases others with here | impossible | impossible | impossible
        · cases here
          exact ⟨rfl, rfl, rfl⟩
        · cases impossible
        · cases impossible
        · cases impossible
      · rcases List.mem_map.mp listed with ⟨entry, _, shape⟩
        exact False.elim (objectLine_unjudged _ _ entry _ _ _ _ _ _ _ _ shape)
    rw [line.1, line.2.1, line.2.2, same, alike.kmemCache]
    refine confirms_of_lines (objects ▸ containsObj_mem made contains) fun entry cpu => ⟨?_, ?_⟩
    · intro member
      simp only [List.mem_append, List.mem_cons, List.not_mem_nil, or_false, reduceCtorEq] at member
    · intro member
      simp only [List.mem_append, List.mem_cons, List.not_mem_nil, or_false, reduceCtorEq] at member

theorem make_of_fromPageObj {page : Nat} (made : SlabSLUB.fromPageObj system page = .ok slab) :
    Exists fun cache : KmemCacheSLUB => SlabSLUB.make system page cache = .ok slab := by
  rcases except_bind_ok.mp made with ⟨address, _, rest⟩
  rcases except_bind_ok.mp rest with ⟨cache, _, last⟩
  exact ⟨cache, fetched_eq_ok last⟩

namespace KmemTarget

variable {target : KmemTarget}

/-- For an address that is no negative number the lookup is that of `slab_from_obj_addr`. -/
theorem slabFromObjAddr_natCast (addr : Nat) :
    target.slabFromObjAddr addr = target.toSlubLookup.slabFromObjAddr addr := by
  simp only [slabFromObjAddr, SlubLookup.slabFromObjAddr, Page.headOfAddr, Page.fromAddr]
  cases Page.pfnToPage target.system.pageClass target.pages
    (((addr : Int) - target.system.pageClass.directmapBase) / target.system.pageClass.pageSize) <;> rfl

/-- A slab that an address leads to is new. -/
theorem slabFromObjAddr_made {addr : Int} (found : target.slabFromObjAddr addr = .ok (some slab)) :
    Exists fun page : Nat => Exists fun cache : KmemCacheSLUB =>
      SlabSLUB.make target.system page cache = .ok slab := by
  rcases except_bind_ok.mp found with ⟨page, _, rest⟩
  rcases except_bind_ok.mp rest with ⟨head, _, last⟩
  by_cases slabbed : head.isSlab target.system.pageClass = true
  · rw [if_pos slabbed] at last
    rcases make_of_fromPageObj (SlubLookup.map_some_eq_ok.mp last) with ⟨cache, made⟩
    exact ⟨_, cache, made⟩
  · rw [if_neg slabbed] at last
    cases last

/-- About a `struct page` no verdict is given. -/
theorem describePage_unjudged {slabcheck slablist : Bool} {page : Page target.pages} {addr : Int} {value : PUnit}
    (ran : (target.describePage fuel slabcheck slablist page addr).run before = .ok value after) :
    Exists fun lines : List InfoLine => after.printed = before.printed ++ lines ∧
      forall line, line ∈ lines -> Unjudged line := by
  rcases run_bind_ok ran with ⟨_, first, titled, second⟩
  rcases run_bind_ok second with ⟨head, third, led, rest⟩
  rcases printLines_ok titled with ⟨_, printed⟩
  rcases within_ok led with ⟨_, unprinted⟩
  have titleLine : Unjudged (.structPage addr page.address page.pfn) :=
    fun _ _ _ _ _ _ _ _ impossible => (by cases impossible)
  by_cases slabbed : head.isSlab target.system.pageClass = true
  · rw [if_pos slabbed] at rest
    rcases run_bind_ok rest with ⟨slab, fourth, made, fifth⟩
    rcases within_ok made with ⟨_, unprintedToo⟩
    by_cases asked : (slabcheck || slablist) = true
    · rw [if_pos asked] at fifth
      rcases run_bind_ok fifth with ⟨role, sixth, looked, seventh⟩
      rcases run_bind_ok seventh with ⟨_, eighth, told, last⟩
      rcases within_ok looked with ⟨_, silent⟩
      rcases printLines_ok told with ⟨_, named⟩
      have pageLine : Unjudged (.pageSlab slab.kmemCache.name slab.address role) :=
        fun _ _ _ _ _ _ _ _ impossible => (by cases impossible)
      by_cases listed : slablist = true
      · rw [if_pos listed] at last
        rcases showSlab_unjudged last with ⟨lines, shown, unjudged⟩
        refine ⟨[.structPage addr page.address page.pfn, .pageSlab slab.kmemCache.name slab.address role] ++ lines,
          ?_, List.forall_mem_append.mpr ⟨List.forall_mem_cons.mpr ⟨titleLine,
            List.forall_mem_singleton.mpr pageLine⟩, unjudged⟩⟩
        rw [shown, named, silent, unprintedToo, unprinted, printed]
        simp only [List.append_assoc, List.cons_append, List.nil_append]
      · rw [if_neg listed] at last
        cases last
        refine ⟨[.structPage addr page.address page.pfn, .pageSlab slab.kmemCache.name slab.address role],
          ?_, List.forall_mem_cons.mpr ⟨titleLine, List.forall_mem_singleton.mpr pageLine⟩⟩
        rw [named, silent, unprintedToo, unprinted, printed]
        simp only [List.append_assoc, List.cons_append, List.nil_append]
    · rw [if_neg asked] at fifth
      rcases EStateM.Result.ok.inj fifth with ⟨_, same⟩
      refine ⟨[.structPage addr page.address page.pfn], ?_, List.forall_mem_singleton.mpr titleLine⟩
      rw [← same, unprintedToo, unprinted, printed]
  · rw [if_neg slabbed] at rest
    rcases EStateM.Result.ok.inj rest with ⟨_, same⟩
    refine ⟨[.structPage addr page.address page.pfn], ?_, List.forall_mem_singleton.mpr titleLine⟩
    rw [← same, unprinted, printed]

/-- Whenever `kmem -S` gives a verdict about an object, the list of objects behind it has the object,
and in brackets exactly if the verdict is that it is allocated.  Where the verdict names the processor
whose freelist the object is on, the list names the same. -/
theorem execute_confirms (target : KmemTarget) (fuel limit : Nat) (known : KmemCaches KmemCacheSLUB)
    {slablist : Nat} (listing : slablist ≠ 0) (query : PyString) {world : SlubWorld} {after : KmemState}
    (ran : (target.execute fuel limit known false slablist (some query)).run ⟨world, []⟩ = .ok ⟨⟩ after)
    {isUsed : Bool} {details : Option Nat} {obj offset : Int} {objsize : Nat} {name : String} {number : Nat}
    {role : SlabSLUB.SlabRole}
    (judged : .verdict isUsed details obj offset objsize name number role ∈ after.printed) :
    Confirms after.printed isUsed details obj := by
  have asked : (false || decide (slablist ≠ 0)) = true := by
    rw [Bool.false_or, decide_eq_true listing]
  simp only [execute, if_pos asked] at ran
  cases cached : known.findKmemCache limit query with
  | some cache =>
      rw [cached] at ran
      rcases within_ok ran with ⟨_, silent⟩
      rw [silent] at judged
      exact False.elim (List.not_mem_nil judged)
  | none =>
      rw [cached] at ran
      by_cases empty : query = []
      · simp only [if_pos empty] at ran
        cases ran
      · simp only [if_neg empty] at ran
        cases read : safeInt limit query with
        | none =>
            rw [read] at ran
            cases ran
        | some addr =>
            rw [read] at ran
            simp only [executeAddress, decide_eq_true listing] at ran
            cases paged : Page.safePageFromPageAddr target.system.pageClass target.pages target.maxPfn addr with
            | error error =>
                rw [paged] at ran
                cases ran
            | ok page =>
                rw [paged] at ran
                cases page with
                | some page =>
                    rcases describePage_unjudged ran with ⟨lines, printed, unjudged⟩
                    rw [printed] at judged
                    exact False.elim (unjudged _ judged _ _ _ _ _ _ _ _ rfl)
                | none =>
                    rcases run_bind_ok ran with ⟨found, middle, looked, last⟩
                    rcases within_ok looked with ⟨lookedUp, silent⟩
                    cases found with
                    | none => cases last
                    | some slab =>
                        rcases slabFromObjAddr_made (raising_ok lookedUp) with ⟨number, cache, made⟩
                        exact describe_confirms made silent last judged

/-! ## Any address in a slab -/

/-- The role of a slab of a processed cache is found. -/
theorem slabRole_run {world : SlubWorld} (ready : Ready slab world) :
    Exists fun role : SlabSLUB.SlabRole =>
      (SlabSLUB.slabRole system fuel slab).run world = .ok role world := by
  have known : slab.kmemCache.tables.run world = .ok (world.tables slab.kmemCache.address) world := rfl
  simp only [SlabSLUB.slabRole, EStateM.run_bind, slubProcessOnce_processed ready.processed, known]
  split
  · exact ⟨_, rfl⟩
  · exact ⟨_, rfl⟩
  · split
    · exact ⟨_, rfl⟩
    · exact ⟨_, rfl⟩

/-- An address that is in no object is called invalid. -/
theorem judge_invalid {addr obj : Int} {reason : Option SlabSLUB.Surroundings}
    (contains : slab.containsObj target.system addr = .ok (false, obj, reason)) (state : KmemState) :
    (target.judge fuel slab addr).run state = .ok slab
      { state with
        printed := state.printed ++ [.invalid slab.address slab.kmemCache.name obj reason] } := by
  simp only [judge]
  rw [contains]
  rfl

/-- An address in an object is judged, if `obj_in_use` returns. -/
theorem judge_valid {addr obj : Int} {reason : Option SlabSLUB.Surroundings} (state : KmemState)
    {judged : SlabSLUB} {answer : Bool × Option Nat} {world : SlubWorld}
    (contains : slab.containsObj target.system addr = .ok (true, obj, reason))
    (used : (objInUse target.system fuel slab obj).run state.world = .ok (judged, answer) world) :
    Exists fun role : SlabSLUB.SlabRole => (target.judge fuel slab addr).run state = .ok judged
      ⟨world, state.printed ++ [.verdict answer.1 answer.2 obj (addr - obj)
        (target.objectSize slab.kmemCache.address) slab.kmemCache.name slab.address role]⟩ := by
  rcases objInUse_ok used with ⟨_, ready, _⟩
  rcases @slabRole_run target.system fuel judged world ready with ⟨role, looked⟩
  refine ⟨role, ?_⟩
  have told : (within (objInUse target.system fuel slab obj)).run state =
      .ok (judged, answer) { state with world := world } := by
    simp only [within, EStateM.run] at used ⊢
    rw [used]
  have found : (within (SlabSLUB.slabRole target.system fuel judged)).run { state with world := world } =
      .ok role { state with world := world } := by
    simp only [within, EStateM.run] at looked ⊢
    rw [looked]
  simp only [judge]
  rw [contains]
  change ((within (objInUse target.system fuel slab obj) >>= fun found => _ : KmemM SlabSLUB).run state) = _
  rw [EStateM.run_bind, told]
  change ((within (SlabSLUB.slabRole target.system fuel judged) >>= fun role => _ : KmemM SlabSLUB).run _) = _
  rw [EStateM.run_bind, found]
  rfl

/-- Where `obj_in_use` does not return, nothing is printed. -/
theorem judge_stops {addr obj : Int} {reason : Option SlabSLUB.Surroundings} (state : KmemState)
    {halt : Halt} {world : SlubWorld}
    (contains : slab.containsObj target.system addr = .ok (true, obj, reason))
    (stopped : (objInUse target.system fuel slab obj).run state.world = .error halt world) :
    (target.judge fuel slab addr).run state = .error (.halt halt) { state with world := world } := by
  have told : (within (objInUse target.system fuel slab obj)).run state =
      .error (.halt halt) { state with world := world } := by
    simp only [within, EStateM.run] at stopped ⊢
    rw [stopped]
  simp only [judge]
  rw [contains]
  change ((within (objInUse target.system fuel slab obj) >>= fun found => _ : KmemM SlabSLUB).run state) = _
  rw [EStateM.run_bind, told]

/-- What `kmem` prints about an address with this answer of `contains_obj`.  An address that is
in no object is called invalid.  The verdict about an object is that of `obj_in_use`, and if this
does not return, the command is left in the same way and has printed nothing. -/
def Locates (target : KmemTarget) (fuel : Nat) (slab : SlabSLUB) (world : SlubWorld) (addr : Int)
    (result : EStateM.Result KmemStop KmemState PUnit) :
    Bool × Int × Option SlabSLUB.Surroundings -> Prop
  | (false, obj, reason) => Exists fun after : KmemState => result = .ok ⟨⟩ after ∧
      after.printed = [.invalid slab.address slab.kmemCache.name obj reason]
  | (true, obj, _) =>
      match (objInUse target.system fuel slab obj).run world with
      | .ok (_, isUsed, details) _ => Exists fun after : KmemState =>
          Exists fun role : SlabSLUB.SlabRole => result = .ok ⟨⟩ after ∧
            after.printed = [.verdict isUsed details obj (addr - obj)
              (target.objectSize slab.kmemCache.address) slab.kmemCache.name slab.address role]
      | .error halt _ => Exists fun after : KmemState =>
          result = .error (.halt halt) after ∧ after.printed = []

/-- The command describes the slab of an address by what `contains_obj` answers. -/
theorem describe_locates {addr : Int} {answer : Bool × Int × Option SlabSLUB.Surroundings}
    (contains : slab.containsObj target.system addr = .ok answer) (world : SlubWorld) :
    target.Locates fuel slab world addr ((target.describe fuel false slab addr).run ⟨world, []⟩)
      answer := by
  rcases answer with ⟨valid, obj, reason⟩
  simp only [describe]
  rw [EStateM.run_bind]
  cases valid with
  | false =>
      rw [judge_invalid contains]
      exact ⟨_, rfl, rfl⟩
  | true =>
      simp only [Locates]
      cases used : (objInUse target.system fuel slab obj).run world with
      | ok found later =>
          rcases judge_valid ⟨world, []⟩ contains used with ⟨role, judged⟩
          rw [judged]
          exact ⟨_, role, rfl, rfl⟩
      | error halt later =>
          rw [judge_stops ⟨world, []⟩ contains used]
          exact ⟨_, rfl, rfl⟩

/-- Every address in a page of a slab is located.  In the slot of an object it is judged by where
in the slot it is, and behind the last slot it is outside of all objects. -/
theorem execute_locates (target : KmemTarget) (fuel limit : Nat) (known : KmemCaches KmemCacheSLUB)
    (compound : target.CompoundSlab) {n addr : Nat} (inside : n < 2 ^ compound.order)
    (here : compound.InPage n addr) (apart : ¬ target.TakenForStructPage addr)
    (sized : 0 < compound.slab.kmemCache.size) {query : PyString}
    (typed : safeInt limit query = some (addr : Int)) (world : SlubWorld) :
    (forall idx, idx < compound.slab.nrObjects -> compound.slab.Slot target.system idx addr ->
      target.Locates fuel compound.slab world addr
        ((target.execute fuel limit known false 0 (some query)).run ⟨world, []⟩)
        (compound.slab.givenAnswer (compound.slab.objectAt target.system idx) addr)) ∧
    ((forall idx, idx < compound.slab.nrObjects -> ¬ compound.slab.Slot target.system idx addr) ->
      target.Locates fuel compound.slab world addr
        ((target.execute fuel limit known false 0 (some query)).run ⟨world, []⟩)
        (false, 0, some .outside)) := by
  have idle : ¬ (false || decide (0 ≠ 0)) = true := by decide
  have typedSome : query ≠ [] := by
    intro empty
    rw [empty] at typed
    cases typed
  have paged : Page.safePageFromPageAddr target.system.pageClass target.pages target.maxPfn addr = .ok none := by
    rw [Page.safePageFromPageAddr]
    by_cases low : (addr : Int) < target.system.pageClass.vmemmapBase
    · rw [if_pos low]
    · rw [if_neg low]
      refine if_pos ?_
      by_contra high
      exact apart ⟨Int.ofNat_le.mp (Int.not_lt.mp low), Int.not_lt.mp high⟩
  have found : target.slabFromObjAddr addr = .ok (some compound.slab) := by
    rw [slabFromObjAddr_natCast, compound.slabFromObjAddr_iff]
    exact compound.liesIn_of_inPage inside here
  have described : (target.execute fuel limit known false 0 (some query)).run ⟨world, []⟩ =
      (target.describe fuel false compound.slab addr).run ⟨world, []⟩ := by
    simp only [execute, if_neg idle, if_neg typedSome, typed, executeAddress, paged, found]
    rfl
  rcases make_of_fromPageObj compound.slabMade with ⟨cache, made⟩
  rw [described]
  constructor
  · intro idx bounded slot
    exact describe_locates (SlabSLUB.containsObj_of_slot made sized slot bounded) world
  · intro none
    exact describe_locates (SlabSLUB.containsObj_of_outside made sized none) world

end KmemTarget

/-- A cache of objects of 64 bytes.  Its processor holds no slab. -/
def smallCache : KmemCacheSLUB where
  name := "small"
  address := 16
  size := 64
  flags := 0
  fpOffset := 0
  redLeftPadField := 0
  inuse := 64
  cpuSlab := fun _ => .ok ⟨.ok 0, .ok 0, .ok 0⟩
  nodelist := fun _ => .ok none

/-- A slab of two objects in page frame 4.  The second one is free. -/
def smallTarget : KmemTarget where
  system := .single smallCache [0]
    [(0xffffea0000000100, ⟨.ok 0xffff880000004040, .ok 2, .ok 1, .ok 0, .ok 16, .ok 0, .ok 0⟩)]
    [(0xffff880000004040, 0)]
  pages := fun _ => { flags := .ok 4, compoundHead := .ok 0 }
  maxPfn := 1000
  objectSize := fun _ => 60

/-- The slab. -/
def smallSlab : smallTarget.CompoundSlab where
  pfn := 4
  order := 0
  page := fun _ => ⟨0xffffea0000000100, 4, 4, rfl⟩
  found := by
    intro n inside
    rw [Nat.lt_one_iff.mp inside]
    rfl
  headFirst := rfl
  tailsFollow := by
    intro n positive inside
    exact False.elim (Nat.not_lt.mpr positive inside)
  headIsSlab := rfl
  slab := ⟨0xffffea0000000100, smallCache, 2, 1, ∅, false, false⟩
  slabMade := rfl

/-- The objects of the caches before anything was done with them. -/
def smallWorld : SlubWorld :=
  ⟨fun _ => KmemCacheSLUB.freshTables smallTarget.system, []⟩

/-- A run of the command. -/
def smallRun (slablist : Nat) (query : String) : EStateM.Result KmemStop KmemState PUnit :=
  (smallTarget.execute 8 0 {} false slablist (some query.toList)).run ⟨smallWorld, []⟩

/-- The command returns. -/
def hasReturned : EStateM.Result KmemStop KmemState PUnit -> Bool
  | .ok _ _ => true
  | .error _ _ => false

theorem ran_of_returns {result : EStateM.Result KmemStop KmemState PUnit} (returns : hasReturned result = true) :
    result = .ok ⟨⟩ (finalState result) := by
  cases result with
  | ok value state => rfl
  | error error state => cases returns

theorem execute_confirms_small :
    Confirms (finalState (smallRun 1 "0xffff880000004050")).printed false none 0xffff880000004040 :=
  @KmemTarget.execute_confirms smallTarget 8 0 {} 1 Nat.one_ne_zero "0xffff880000004050".toList smallWorld _
    (ran_of_returns (by decide +kernel)) false none 0xffff880000004040 16 60 "small" 0xffffea0000000100 .unknown
    (by decide +kernel)

theorem execute_locates_small :
    smallTarget.Locates 8 smallSlab.slab smallWorld (0xffff880000004050 : Nat) (smallRun 0 "ffff880000004050")
        (true, 0xffff880000004040, none) ∧
      smallTarget.Locates 8 smallSlab.slab smallWorld (0xffff880000004200 : Nat) (smallRun 0 "ffff880000004200")
        (false, 0, some .outside) := by
  have inObject := @KmemTarget.execute_locates smallTarget 8 0 {} smallSlab 0 0xffff880000004050 (by decide)
    ⟨by decide +kernel, by decide +kernel⟩ (fun taken => absurd taken.1 (by decide +kernel)) (by decide)
    "ffff880000004050".toList (by decide +kernel) smallWorld
  have behind := @KmemTarget.execute_locates smallTarget 8 0 {} smallSlab 0 0xffff880000004200 (by decide)
    ⟨by decide +kernel, by decide +kernel⟩ (fun taken => absurd taken.1 (by decide +kernel)) (by decide)
    "ffff880000004200".toList (by decide +kernel) smallWorld
  constructor
  · exact inObject.1 1 (by decide) ⟨by decide +kernel, by decide +kernel⟩
  · apply behind.2
    intro idx bounded slot
    have last : (idx : Int) ≤ 1 := Int.ofNat_le.mpr (Nat.le_of_lt_succ bounded)
    have below : (0xffff880000004200 : Int) < 0xffff880000004000 + idx * 64 + 64 := slot.2
    omega

end Commands
end CrashPython

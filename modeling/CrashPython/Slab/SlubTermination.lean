import CrashPython.Slab.SlubQuiet
import Mathlib.Order.Filter.AtTopBot.Basic
import Mathlib.Order.Filter.Finite

namespace CrashPython
namespace Slab
namespace KmemCacheSLUB

open Library Types

/-!
# Termination of `process_all`

The chains of free objects are followed for as many rounds as a slab has
objects, and the lists of the nodes are walked with a detection of cycles.  The
partial list of a processor is followed up to the null pointer and has neither.
It is the only loop that can run forever, and it does so if the list does not end
and all its slabs can be read.

With enough fuel every other part of a pass ends.  A header makes a quiet pass
over another cache, so that the partial lists of all known caches matter.
-/

/-- The code ends: from some amount of fuel on, the fuel is not used up. -/
def Terminates {Value : Type} (procedure : Nat -> SlubM Value) (world : SlubWorld) : Prop :=
  Exists fun bound : Nat => forall fuel, bound ≤ fuel ->
    forall after, (procedure fuel).run world ≠ .error .outOfFuel after

variable (system : SlubSystem) (cache : KmemCacheSLUB)

/-- The free objects are read where the scan fills in the attributes. -/
def examined (fill : Bool) (slab : SlabSLUB) : Except Halt (Finset Nat) :=
  if fill then SlabSLUB.freeObjects system slab else .ok ∅

/-- The reads for one slab of the partial list of a processor, which find the
next one. -/
def partialLink (fill : Bool) (page : Nat) : Except Halt Nat := do
  let slab <- halting (SlabSLUB.fromPageObj system page)
  let _ <- examined system fill slab
  let _ <- halting (fetched (system.pages page).pages)
  let _ <- halting (fetched (system.pages page).frozen)
  halting (fetched (system.pages page).next)

/-- The partial list goes on forever, and all its slabs can be read. -/
def Endless (fill : Bool) (first : Nat) : Prop :=
  forall limit, (chainWalk (partialLink system fill) limit first).2 = .overflow

/-- What the scan reads of a processor before its partial list can be read, and
the list starts at the page. -/
def Reaches (sizes : Nat) (fill : Bool) (cpu first : Nat) : Prop :=
  (headScript system cache sizes noHeader 1 fill cpu).ending = .ok first

/-- The partial list of the processor ends, and everything the scan reads of the
processor can be read. -/
def Passes (sizes : Nat) (fill : Bool) (cpu : Nat) : Prop :=
  Exists fun first : Nat => Reaches system cache sizes fill cpu first ∧
    Exists fun slabs : List Nat => NullTerminated (partialLink system fill) first slabs

/-- The scan of a cache with the given attributes comes to a partial list that
goes on forever. -/
def EndlessScan (known : SlubTables) : Prop :=
  Exists fun before : List Nat => Exists fun cpu : Nat => Exists fun after : List Nat =>
    Exists fun first : Nat =>
      system.cpusOnline = before ++ cpu :: after ∧
        (forall earlier, earlier ∈ before -> Passes system cache
          known.cpuFreelistsSizes.length known.cpuSlabs.isEmpty earlier) ∧
        Reaches system cache known.cpuFreelistsSizes.length known.cpuSlabs.isEmpty cpu first ∧
        Endless system known.cpuSlabs.isEmpty first

variable {system cache}

/-! ## Scripts that do not use up the fuel -/

/-- A script that does not end for want of fuel. -/
def Ends {Value : Type} (script : SlubScript Value) : Prop :=
  script.ending ≠ .error .outOfFuel

namespace Ends

variable {Value Result Item : Type}

theorem returns (value : Value) : Ends (pure value) :=
  nofun

theorem act (action : ScanAction) : Ends (.act action) :=
  nofun

theorem halts {read : Except SlabException Value} : Ends (.reading (halting read)) := by
  cases read with
  | error error => exact nofun
  | ok value => exact nofun

theorem andThen {script : SlubScript Value} {continuation : Value -> SlubScript Result}
    (initially : Ends script)
    (afterwards : forall value, script.ending = .ok value -> Ends (continuation value)) :
    Ends (script >>= continuation) := by
  intro failed
  rcases Script.bind_ending_error.mp failed with here | ⟨value, passed, later⟩
  · exact initially here
  · exact afterwards value passed later

theorem chosen {condition : Prop} [Decidable condition] {first second : SlubScript Value}
    (yes : Ends first) (no : Ends second) : Ends (if condition then first else second) := by
  split
  · exact yes
  · exact no

theorem fold {items : List Item} {script : Value -> Item -> SlubScript Value}
    (rounds : forall carried item, Ends (script carried item)) (carried : Value) :
    Ends (items.foldlM script carried) := by
  induction items generalizing carried with
  | nil => exact returns carried
  | cons item rest inductionHypothesis =>
      rw [List.foldlM_cons]
      exact (rounds carried item).andThen fun carried _ => inductionHypothesis carried

end Ends

theorem freeObjects_ends (slab : SlabSLUB) :
    Ends (.reading (SlabSLUB.freeObjects system slab)) := by
  unfold SlabSLUB.freeObjects
  rw [Script.reading_bind]
  apply Ends.halts.andThen
  intro freelist _
  unfold SlabSLUB.gathered
  change _ ≠ _
  split
  · exact nofun
  · exact nofun

theorem indexed_ends (sizes cpu : Nat) : Ends (.reading (indexed sizes cpu)) := by
  unfold indexed
  split
  · exact nofun
  · exact nofun

theorem locklessScript_ends (cpu remaining nrFree freelist : Nat) :
    Ends (locklessScript system cache cpu remaining nrFree freelist) := by
  induction remaining generalizing nrFree freelist with
  | zero =>
      unfold locklessScript
      exact (Ends.returns _).chosen ((Ends.act _).andThen fun _ _ => Ends.returns _)
  | succ remaining inductionHypothesis =>
      unfold locklessScript
      exact (Ends.returns _).chosen ((Ends.act _).andThen fun _ _ =>
        Ends.halts.andThen fun next _ => inductionHypothesis _ next)

theorem freelistScript_ends (sizes : Nat) (fill : Bool) (cpu : Nat) (cpuSlab : KmemCacheCpu) :
    Ends (freelistScript system cache sizes fill cpu cpuSlab) := by
  have populated : Ends (populateScript system cache cpu cpuSlab) :=
    Ends.halts.andThen fun freelist _ => (Ends.returns 0).chosen
      (Ends.halts.andThen fun page _ => Ends.halts.andThen fun nrObjects _ =>
        locklessScript_ends cpu nrObjects 0 freelist)
  unfold freelistScript
  exact (populated.andThen fun size _ => (indexed_ends sizes cpu).andThen fun _ _ =>
    Ends.act _).chosen (indexed_ends sizes cpu)

theorem holdScript_ends (fill : Bool) (page : Nat) (place : CpuPlace) :
    Ends (holdScript system fill page place) :=
  Ends.halts.andThen fun slab _ => ((Ends.act _).andThen fun _ _ =>
    (freeObjects_ends slab).andThen fun _ _ => Ends.returns slab).chosen (Ends.returns slab)

theorem frozenScript_ends (slab : SlabSLUB) (expected : Nat) (place : FrozenPlace) :
    Ends (SlabSLUB.frozenScript system slab expected place) :=
  Ends.halts.andThen fun _ _ => (Ends.act _).chosen (Ends.returns _)

theorem printScript_ends (level : Nat) (fill : Bool) (slab : SlabSLUB) :
    Ends (printScript system level fill slab) :=
  ((freeObjects_ends slab).andThen fun _ _ => Ends.returns _).chosen (Ends.returns _)

section Headers

variable {outcome : KmemCacheSLUB -> Except Halt PUnit}
  (headed : forall other, system.caches other.address = some other ->
    outcome other ≠ .error .outOfFuel)

include headed

theorem headerScript_ends {fill : Bool} {page : Nat} {place : CpuPlace} {slab : SlabSLUB}
    (held : (holdScript system fill page place).ending = .ok slab) (level least : Nat) :
    Ends (headerScript outcome level least slab) := by
  have registered := (SlabSLUB.fromPageObj_ok system (holdScript_ok held).1).2.2
  have header : Ends (.reading (outcome slab.kmemCache)) := headed slab.kmemCache registered
  exact header.chosen (Ends.returns _)

theorem headScript_ends (sizes level : Nat) (fill : Bool) (cpu : Nat) :
    Ends (headScript system cache sizes outcome level fill cpu) := by
  apply Ends.halts.andThen
  intro cpuSlab _
  apply (freelistScript_ends sizes fill cpu cpuSlab).andThen
  intro _ _
  have active : Ends (activeScript system outcome level fill cpu cpuSlab) := by
    apply Ends.halts.andThen
    intro page _
    apply (Ends.returns _).chosen
    apply (holdScript_ends fill page _).andThen
    intro slab held
    apply (headerScript_ends headed held level 2).andThen
    intro _ _
    exact (frozenScript_ends slab 1 _).andThen fun _ _ => printScript_ends level fill slab
  exact active.andThen fun _ _ => Ends.halts

theorem visitScript_ends (level : Nat) (fill : Bool) (cpu page : Nat) :
    Ends (visitScript system outcome level fill cpu page) := by
  apply (holdScript_ends fill page _).andThen
  intro slab held
  apply Ends.halts.andThen
  intro pages _
  apply (headerScript_ends headed held level 3).andThen
  intro _ _
  apply (printScript_ends level fill slab).andThen
  intro _ _
  exact (frozenScript_ends slab 1 _).andThen fun _ _ => Ends.returns pages

end Headers

/-! ## The partial list -/

theorem partialLink_ok {fill : Bool} {page next : Nat} :
    partialLink system fill page = .ok next <->
      Exists fun slab : SlabSLUB => halting (SlabSLUB.fromPageObj system page) = .ok slab ∧
        (fill = true -> Exists fun free : Finset Nat =>
          SlabSLUB.freeObjects system slab = .ok free) ∧
        (Exists fun pages : Int => halting (fetched (system.pages page).pages) = .ok pages) ∧
        (Exists fun frozen : Nat => halting (fetched (system.pages page).frozen) = .ok frozen) ∧
        halting (fetched (system.pages page).next) = .ok next := by
  unfold partialLink
  simp only [except_bind_ok]
  constructor
  · rintro ⟨slab, made, free, found, pages, counted, frozen, read, linked⟩
    refine ⟨slab, made, ?_, ⟨pages, counted⟩, ⟨frozen, read⟩, linked⟩
    intro filling
    unfold examined at found
    rw [if_pos filling] at found
    exact ⟨free, found⟩
  · rintro ⟨slab, made, found, ⟨pages, counted⟩, ⟨frozen, read⟩, linked⟩
    cases fill with
    | false => exact ⟨slab, made, ∅, rfl, pages, counted, frozen, read, linked⟩
    | true =>
        rcases found rfl with ⟨free, gathered⟩
        exact ⟨slab, made, free, gathered, pages, counted, frozen, read, linked⟩

/-- What was read when the script of a slab ends well. -/
theorem visitScript_ok {outcome : KmemCacheSLUB -> Except Halt PUnit} {level cpu page : Nat}
    {fill : Bool} {pages : Int}
    (ended : (visitScript system outcome level fill cpu page).ending = .ok pages) {next : Nat}
    (linked : halting (fetched (system.pages page).next) = .ok next) :
    partialLink system fill page = .ok next := by
  rcases Script.bind_ending_ok.mp ended with ⟨slab, held, rest⟩
  rcases Script.bind_ending_ok.mp rest with ⟨counted, read, rest⟩
  rcases Script.bind_ending_ok.mp rest with ⟨_, _, rest⟩
  rcases Script.bind_ending_ok.mp rest with ⟨_, _, rest⟩
  rcases Script.bind_ending_ok.mp rest with ⟨_, warned, _⟩
  rcases Script.bind_ending_ok.mp warned with ⟨frozen, looked, _⟩
  have new := holdScript_ok held
  rw [(SlabSLUB.fromPageObj_ok system new.1).1] at looked
  apply partialLink_ok.mpr
  refine ⟨slab, ?_, new.2, ⟨counted, read⟩, ⟨frozen, looked⟩, linked⟩
  rw [new.1]
  rfl

/-- At a low print level nothing more is read. -/
theorem visitScript_of_link (outcome : KmemCacheSLUB -> Except Halt PUnit) {level : Nat}
    (quiet : level < 2) {fill : Bool} {page next : Nat}
    (linked : partialLink system fill page = .ok next) (cpu : Nat) :
    Exists fun pages : Int =>
      (visitScript system outcome level fill cpu page).ending = .ok pages := by
  rcases partialLink_ok.mp linked with ⟨slab, made, found, ⟨pages, counted⟩, ⟨frozen, read⟩, _⟩
  have own := (SlabSLUB.fromPageObj_ok system (halting_eq_ok made)).1
  have held : (holdScript system fill page (.onPartial cpu)).ending = .ok slab := by
    apply Script.bind_ends made
    cases fill with
    | false => rfl
    | true =>
        rcases found rfl with ⟨free, gathered⟩
        exact Script.bind_ends rfl (Script.bind_ends gathered rfl)
  have warned : (SlabSLUB.frozenScript system slab 1 (.cpu (.onPartial cpu))).ending = .ok ⟨⟩ := by
    rw [← own] at read
    apply Script.bind_ends read
    split
    · rfl
    · rfl
  have unheaded : headerScript outcome level 3 slab = pure ⟨⟩ :=
    if_neg (by omega)
  have unprinted : printScript system level fill slab = pure ⟨⟩ :=
    if_neg fun both => by omega
  refine ⟨pages, Script.bind_ends held (Script.bind_ends counted ?_)⟩
  rw [unheaded, unprinted]
  change (SlabSLUB.frozenScript system slab 1 (.cpu (.onPartial cpu)) >>= fun _ =>
    pure pages).ending = .ok pages
  exact Script.bind_ends warned rfl

theorem reportIf_ends (condition : Prop) [Decidable condition] (report : SlubReport) :
    (if condition then .act (.report report) else pure ⟨⟩ : SlubScript PUnit).ending = .ok ⟨⟩ := by
  split
  · rfl
  · rfl

section Walk

variable {outcome : KmemCacheSLUB -> Except Halt PUnit} {level : Nat} {fill : Bool}

/-- A partial list that uses up the fuel has as many slabs. -/
theorem overflow_of_partialScript
    (headed : forall other, system.caches other.address = some other ->
      outcome other ≠ .error .outOfFuel) {cpu fuel page : Nat} {expected last : Int}
    (stuck : (partialScript system cache outcome level fill cpu (fuel + 1) page expected
      last).ending = .error .outOfFuel) :
    (chainWalk (partialLink system fill) fuel page).2 = .overflow := by
  induction fuel generalizing page expected last with
  | zero =>
      unfold partialScript at stuck
      unfold chainWalk
      by_cases null : page = 0
      · rw [if_pos null] at stuck
        exact False.elim ((Ends.act _).chosen (Ends.returns _) stuck)
      · rw [if_neg null]
  | succ fuel inductionHypothesis =>
      rw [partialScript] at stuck
      by_cases null : page = 0
      · rw [if_pos null] at stuck
        exact False.elim ((Ends.act _).chosen (Ends.returns _) stuck)
      · rw [if_neg null] at stuck
        rcases Script.bind_ending_error.mp stuck with here | ⟨pages, visited, stuck⟩
        · exact False.elim (visitScript_ends headed level fill cpu page here)
        rcases Script.bind_ending_error.mp stuck with here | ⟨_, _, stuck⟩
        · exact False.elim ((Ends.act _).chosen (Ends.returns _) here)
        rcases Script.bind_ending_error.mp stuck with here | ⟨next, linked, stuck⟩
        · exact False.elim (Ends.halts here)
        unfold chainWalk
        rw [if_neg null, visitScript_ok visited linked]
        exact inductionHypothesis stuck

/-- A list that goes on forever does so after its first slab. -/
theorem endless_onward {first : Nat} (endless : Endless system fill first) :
    first ≠ 0 ∧ Exists fun next : Nat => partialLink system fill first = .ok next ∧
      Endless system fill next := by
  have nonNull : first ≠ 0 := by
    intro null
    have start := endless 0
    rw [null, chainWalk_null] at start
    cases start
  refine ⟨nonNull, ?_⟩
  cases linked : partialLink system fill first with
  | error error =>
      have once := endless 1
      unfold chainWalk at once
      rw [if_neg nonNull, linked] at once
      cases once
  | ok next =>
      refine ⟨next, rfl, ?_⟩
      intro limit
      have further := endless (limit + 1)
      rw [chainWalk, if_neg nonNull, linked] at further
      exact further

/-- A partial list that goes on forever uses up any amount of fuel. -/
theorem partialScript_endless (quiet : level < 2) {first : Nat} (endless : Endless system fill first)
    (cpu fuel : Nat) (expected last : Int) :
    (partialScript system cache outcome level fill cpu fuel first expected last).ending =
      .error .outOfFuel := by
  induction fuel generalizing first expected last with
  | zero => rfl
  | succ fuel inductionHypothesis =>
      rcases endless_onward endless with ⟨nonNull, next, linked, later⟩
      rcases visitScript_of_link outcome quiet linked cpu with ⟨pages, visited⟩
      rcases partialLink_ok.mp linked with ⟨_, _, _, _, _, found⟩
      unfold partialScript
      rw [if_neg nonNull]
      apply Script.bind_ending_error.mpr (.inr ⟨pages, visited, _⟩)
      apply Script.bind_ending_error.mpr (.inr ⟨⟨⟩, reportIf_ends _ _, _⟩)
      exact Script.bind_ending_error.mpr (.inr ⟨next, found, inductionHypothesis later _ _⟩)

/-- A partial list that ends is walked to its end, if the fuel suffices. -/
theorem partialScript_passes (quiet : level < 2) {first : Nat} {slabs : List Nat}
    (chain : NullTerminated (partialLink system fill) first slabs) (cpu fuel : Nat)
    (expected last : Int) :
    (partialScript system cache outcome level fill cpu fuel first expected last).ending = .ok ⟨⟩ ∨
      (partialScript system cache outcome level fill cpu fuel first expected last).ending =
        .error .outOfFuel := by
  induction chain generalizing fuel expected last with
  | done =>
      cases fuel with
      | zero => exact .inr rfl
      | succ fuel =>
          unfold partialScript
          rw [if_pos rfl]
          exact .inl (reportIf_ends _ _)
  | node nonNull linked onward inductionHypothesis =>
      rename_i page next rest
      cases fuel with
      | zero => exact .inr rfl
      | succ fuel =>
          rcases visitScript_of_link outcome quiet linked cpu with ⟨pages, visited⟩
          rcases partialLink_ok.mp linked with ⟨_, _, _, _, _, found⟩
          unfold partialScript
          rw [if_neg nonNull]
          rcases inductionHypothesis fuel (pages - 1) pages with passed | stuck
          · exact .inl (Script.bind_ends visited (Script.bind_ends (reportIf_ends _ _)
              (Script.bind_ends found passed)))
          · refine .inr (Script.bind_ending_error.mpr (.inr ⟨pages, visited, ?_⟩))
            refine Script.bind_ending_error.mpr (.inr ⟨⟨⟩, reportIf_ends _ _, ?_⟩)
            exact Script.bind_ending_error.mpr (.inr ⟨next, found, stuck⟩)

/-- A partial list that was walked to its end has one. -/
theorem nullTerminated_of_partialScript {cpu fuel page : Nat} {expected last : Int}
    (passed : (partialScript system cache outcome level fill cpu fuel page expected last).ending =
      .ok ⟨⟩) :
    Exists fun slabs : List Nat => NullTerminated (partialLink system fill) page slabs := by
  induction fuel generalizing page expected last with
  | zero => cases passed
  | succ fuel inductionHypothesis =>
      unfold partialScript at passed
      by_cases null : page = 0
      · rw [null]
        exact ⟨[], .done⟩
      · rw [if_neg null] at passed
        rcases Script.bind_ending_ok.mp passed with ⟨pages, visited, passed⟩
        rcases Script.bind_ending_ok.mp passed with ⟨_, _, passed⟩
        rcases Script.bind_ending_ok.mp passed with ⟨next, found, passed⟩
        rcases inductionHypothesis passed with ⟨slabs, chain⟩
        exact ⟨page :: slabs, .node null (visitScript_ok visited found) chain⟩

end Walk

/-! ## The scan -/

section Scan

variable {outcome : KmemCacheSLUB -> Except Halt PUnit} {level sizes fuel : Nat} {fill : Bool}

/-- Without headers the same is found. -/
theorem reaches_of_headScript {cpu first : Nat}
    (ended : (headScript system cache sizes outcome level fill cpu).ending = .ok first) :
    Reaches system cache sizes fill cpu first := by
  rcases Script.bind_ending_ok.mp ended with ⟨cpuSlab, found, ended⟩
  rcases Script.bind_ending_ok.mp ended with ⟨_, walked, ended⟩
  rcases Script.bind_ending_ok.mp ended with ⟨_, active, started⟩
  have quiet : (activeScript system noHeader 1 fill cpu cpuSlab).ending = .ok ⟨⟩ := by
    rcases Script.bind_ending_ok.mp active with ⟨page, read, active⟩
    apply Script.bind_ends read
    by_cases null : page = 0
    · rw [if_pos null]
      rfl
    · rw [if_neg null] at active
      rw [if_neg null]
      rcases Script.bind_ending_ok.mp active with ⟨slab, held, active⟩
      rcases Script.bind_ending_ok.mp active with ⟨_, _, active⟩
      rcases Script.bind_ending_ok.mp active with ⟨_, warned, _⟩
      exact Script.bind_ends held (Script.bind_ends rfl (Script.bind_ends warned rfl))
  exact Script.bind_ends found (Script.bind_ends walked (Script.bind_ends quiet started))

/-- A processor that was scanned passes. -/
theorem passes_of_cpuScript {cpu : Nat}
    (ended : (cpuScript system cache sizes outcome level fuel fill cpu).ending = .ok ⟨⟩) :
    Passes system cache sizes fill cpu := by
  rcases Script.bind_ending_ok.mp ended with ⟨first, found, walked⟩
  refine ⟨first, reaches_of_headScript found, ?_⟩
  unfold tailScript at walked
  by_cases null : first = 0
  · rw [null]
    exact ⟨[], .done⟩
  · rw [if_neg null] at walked
    rcases Script.bind_ending_ok.mp walked with ⟨expected, _, walked⟩
    exact nullTerminated_of_partialScript walked

/-- With enough fuel, a list that is still followed goes on forever. -/
theorem endless_eventually (cpu : Nat) :
    Filter.Eventually (fun fuel => forall first, Reaches system cache sizes fill cpu first ->
      (chainWalk (partialLink system fill) fuel first).2 = .overflow -> Endless system fill first)
      Filter.atTop := by
  cases found : (headScript system cache sizes noHeader 1 fill cpu).ending with
  | error error =>
      apply Filter.Eventually.of_forall
      intro fuel first reaches
      rw [Reaches, found] at reaches
      cases reaches
  | ok first =>
      by_cases endless : Endless system fill first
      · apply Filter.Eventually.of_forall
        intro fuel other reaches _
        rw [Reaches, found, Except.ok.injEq] at reaches
        exact reaches ▸ endless
      · rcases Classical.not_forall.mp endless with ⟨limit, ended⟩
        apply Filter.eventually_atTop.mpr
        refine ⟨limit, ?_⟩
        intro fuel larger other reaches overflow
        rw [Reaches, found, Except.ok.injEq] at reaches
        rw [← reaches, chainWalk_stable ended larger] at overflow
        exact False.elim (ended overflow)

/-- With enough fuel, a scan that does not come to an endless list ends, as far
as the headers do. -/
theorem scanScript_ends_eventually {known : SlubTables}
    (finite : ¬ EndlessScan system cache known) :
    Filter.Eventually (fun fuel => forall outcome level,
      (forall other, system.caches other.address = some other ->
        outcome other ≠ .error .outOfFuel) ->
      Ends (scanScript system cache known.cpuFreelistsSizes.length outcome level (fuel + 1)
        known.cpuSlabs.isEmpty)) Filter.atTop := by
  have all : Filter.Eventually (fun fuel => forall cpu, cpu ∈ {cpu | cpu ∈ system.cpusOnline} ->
      forall first, Reaches system cache known.cpuFreelistsSizes.length known.cpuSlabs.isEmpty cpu
        first -> (chainWalk (partialLink system known.cpuSlabs.isEmpty) fuel first).2 = .overflow ->
        Endless system known.cpuSlabs.isEmpty first) Filter.atTop :=
    (Filter.eventually_all_finite (List.finite_toSet system.cpusOnline)).mpr
      fun cpu _ => endless_eventually cpu
  apply all.mono
  intro fuel enough outcome level headed stuck
  rcases Script.forM_ending_error stuck with ⟨before, cpu, after, split, earlier, here⟩
  rcases Script.bind_ending_error.mp here with unread | ⟨first, found, here⟩
  · exact headScript_ends headed _ level _ cpu unread
  unfold tailScript at here
  by_cases null : first = 0
  · rw [if_pos null] at here
    cases here
  · rw [if_neg null] at here
    rcases Script.bind_ending_error.mp here with unread | ⟨expected, _, here⟩
    · exact Ends.halts unread
    have reaches := reaches_of_headScript found
    have member : cpu ∈ system.cpusOnline := by
      rw [split]
      exact List.mem_append_right before List.mem_cons_self
    apply finite
    refine ⟨before, cpu, after, first, split, ?_, reaches, ?_⟩
    · exact fun other inside => passes_of_cpuScript (earlier other inside)
    · exact enough cpu member first reaches (overflow_of_partialScript headed here)

/-- A processor that passes is scanned, if the fuel suffices. -/
theorem cpuScript_passes {cpu : Nat} (passes : Passes system cache sizes fill cpu) (fuel : Nat) :
    (cpuScript system cache sizes noHeader 1 fuel fill cpu).ending = .ok ⟨⟩ ∨
      (cpuScript system cache sizes noHeader 1 fuel fill cpu).ending = .error .outOfFuel := by
  rcases passes with ⟨first, reaches, slabs, chain⟩
  cases chain with
  | done => exact .inl (Script.bind_ends reaches rfl)
  | node nonNull linked onward =>
      rcases partialLink_ok.mp linked with ⟨_, _, _, ⟨expected, counted⟩, _, _⟩
      have whole := NullTerminated.node nonNull linked onward
      have walked : (partialScript system cache noHeader 1 fill cpu fuel first expected (-1)).ending =
          .ok ⟨⟩ ∨ _ := partialScript_passes Nat.one_lt_two whole cpu fuel expected (-1)
      unfold cpuScript tailScript
      rcases walked with passed | stuck
      · apply Or.inl
        apply Script.bind_ends reaches
        rw [if_neg nonNull]
        exact Script.bind_ends counted passed
      · apply Or.inr
        refine Script.bind_ending_error.mpr (.inr ⟨first, reaches, ?_⟩)
        rw [if_neg nonNull]
        exact Script.bind_ending_error.mpr (.inr ⟨expected, counted, stuck⟩)

/-- A processor with an endless list uses up the fuel. -/
theorem cpuScript_endless {cpu first : Nat} (reaches : Reaches system cache sizes fill cpu first)
    (endless : Endless system fill first) (fuel : Nat) :
    (cpuScript system cache sizes noHeader 1 fuel fill cpu).ending = .error .outOfFuel := by
  rcases endless_onward endless with ⟨nonNull, next, linked, later⟩
  rcases partialLink_ok.mp linked with ⟨_, _, _, ⟨expected, counted⟩, _, _⟩
  refine Script.bind_ending_error.mpr (.inr ⟨first, reaches, ?_⟩)
  unfold tailScript
  rw [if_neg nonNull]
  refine Script.bind_ending_error.mpr (.inr ⟨expected, counted, ?_⟩)
  exact partialScript_endless Nat.one_lt_two endless cpu fuel expected (-1)

/-- The scan of a cache with an endless list uses up any amount of fuel. -/
theorem scanScript_endless {known : SlubTables} (endless : EndlessScan system cache known)
    (fuel : Nat) :
    (scanScript system cache known.cpuFreelistsSizes.length noHeader 1 fuel
      known.cpuSlabs.isEmpty).ending = .error .outOfFuel := by
  rcases endless with ⟨before, cpu, after, first, split, earlier, reaches, endless⟩
  unfold scanScript
  rw [split]
  clear split
  induction before with
  | nil => exact Script.bind_ending_error.mpr (.inl (cpuScript_endless reaches endless fuel))
  | cons other rest inductionHypothesis =>
      have later := inductionHypothesis fun cpu member => earlier cpu (List.mem_cons_of_mem _ member)
      rcases cpuScript_passes (earlier other List.mem_cons_self) fuel with passed | stuck
      · exact Script.bind_ending_error.mpr (.inr ⟨⟨⟩, passed, later⟩)
      · exact Script.bind_ending_error.mpr (.inl stuck)

end Scan

/-! ## The lists of the nodes -/

section Nodes

variable {outcome : KmemCacheSLUB -> Except Halt PUnit} (headed : Ends (.reading (outcome cache)))

include headed

theorem visitNodeScript_ends (level : Nat) (place : NodePlace) (listHead : Nat) :
    Ends (visitNodeScript system cache outcome level place listHead) := by
  apply Ends.halts.andThen
  intro slab made
  have own := (fromListHead_ok (halting_eq_ok made)).1
  have header : Ends (headerScript outcome level 3 slab) := by
    unfold headerScript
    rw [own]
    exact headed.chosen (Ends.returns _)
  apply header.andThen
  intro _ _
  apply (printScript_ends level false slab).andThen
  intro _ _
  exact (frozenScript_ends slab 0 _).andThen fun _ _ => Ends.returns slab

omit headed in
theorem endScript_ends (ending : Ending ListError) : Ends (endScript ending) := by
  cases ending with
  | completed => exact nofun
  | raised error => exact nofun

theorem nidScript_ends (level : Nat) (totals : NodeTotals) (nid : Nat) :
    Ends (nidScript system cache outcome level totals nid) := by
  apply Ends.halts.andThen
  intro node _
  cases node with
  | none => exact Ends.returns totals
  | some node =>
      apply Ends.halts.andThen
      intro nrSlabs _
      apply Ends.halts.andThen
      intro nrObjs _
      apply Ends.halts.andThen
      intro expected _
      have listed : Ends (nodePartialScript system cache outcome level nid node totals.nrFreeObjs) := by
        apply (Ends.fold (fun counted listHead => (visitNodeScript_ends headed level _
          listHead).andThen fun slab _ => Ends.returns _) _).andThen
        intro counted _
        exact (endScript_ends _).andThen fun _ _ => Ends.returns counted
      have full : Ends (nodeFullScript system cache outcome level nid node) := by
        apply (Ends.fold (fun counted listHead => (visitNodeScript_ends headed level _
          listHead).andThen fun slab _ => Ends.returns _) _).andThen
        intro counted _
        exact (endScript_ends _).andThen fun _ _ => Ends.returns counted
      apply listed.andThen
      intro counted _
      apply ((Ends.act _).chosen (Ends.returns _)).andThen
      intro _ _
      apply full.andThen
      intro found _
      exact ((Ends.act _).chosen (Ends.returns _)).andThen fun _ _ => Ends.returns _

end Nodes

theorem nodesRead_ends (system : SlubSystem) (cache : KmemCacheSLUB) :
    Ends (.reading (nodesRead system cache)) := by
  have unheaded : Ends (.reading (noHeader cache)) :=
    Ends.returns _
  have script : Ends (finishScript system cache noHeader 0 0 0) := by
    apply Ends.halts.andThen
    intro nids _
    apply (Ends.fold (nidScript_ends unheaded 0) _).andThen
    intro totals _
    exact ((Ends.act _).chosen (Ends.returns _)).andThen fun _ _ => Ends.returns _
  have sketch : Sketches Reports (finishScript system cache noHeader 0 0 0) _ :=
    finishScript_sketches system cache (by decide) 0 0
  intro failed
  apply script
  rw [Script.reading_ending, ← sketch.2] at failed
  cases ended : (finishScript system cache noHeader 0 0 0).ending with
  | error error =>
      rw [ended] at failed
      exact congrArg Except.error (Except.error.inj failed)
  | ok totals =>
      rw [ended] at failed
      cases failed

/-! ## The pass -/

/-- Nothing is looked at. -/
def noView (_ : SlubWorld) : PUnit :=
  ⟨⟩

/-- The walk along the lists with headers of slabs of the cache, whose outcome is
known at its start. -/
theorem noView_nodeShows (fuel level : Nat) (ended : Except Halt PUnit) :
    NodeShows system cache noView (fun _ : ScanAction => id) (longHeader system fuel) level
      (fun _ => ended)
      (fun tables => (passScript system cache 0 fuel (tables cache.address)).ending = ended) where
  report := fun _ _ => rfl
  placed := fun _ _ => rfl
  kept := by
    intro world places start
    rw [SlubWorld.update_tables_self]
    exact start
  printed := fun _ _ _ => rfl
  headed := by
    intro _ slab own world start
    have run := slubProcessOnce_enacts system cache fuel _ world rfl
    unfold longHeader
    rw [own]
    rw [start] at run
    cases ended with
    | error error =>
        rcases run with ⟨after, ran, _⟩
        exact ⟨after, ran, rfl⟩
    | ok done =>
        rcases run with ⟨value, after, ran, _, processed⟩
        refine ⟨value, after, ran, rfl, ?_⟩
        change (passScript system cache 0 fuel (after.tables cache.address)).ending = _
        rw [passScript_processed processed]
        rfl

/-- The reads of what comes after the scan. -/
def tallyScript (system : SlubSystem) (cache : KmemCacheSLUB)
    (outcome : KmemCacheSLUB -> Except Halt PUnit) (level : Nat) (nrFreeObjs : Int) :
    SlubScript PUnit := do
  let nids <- .reading (halting (forEachNid system))
  let _ <- nids.foldlM (nidScript system cache outcome level) { nrFreeObjs := nrFreeObjs }
  return ⟨⟩

/-- What comes after the scan ends, if a quiet pass over the cache does. -/
theorem finish_ends {fuel level : Nat} {world : SlubWorld}
    (quiet : Ends (passScript system cache 0 fuel (world.tables cache.address)))
    (after : SlubWorld) :
    (finish system cache (longHeader system fuel) level).run world ≠ .error .outOfFuel after := by
  generalize ended : (passScript system cache 0 fuel (world.tables cache.address)).ending = outcome
  have shows : NodeShows system cache noView (fun _ : ScanAction => id) (longHeader system fuel) level
      (fun _ => outcome) _ := noView_nodeShows fuel level outcome
  have enacts : forall count, Enacts noView (fun _ : ScanAction => id)
      (fun current => (passScript system cache 0 fuel (current.tables cache.address)).ending = outcome)
      (tallyScript system cache (fun _ => outcome) level count) (fun _ _ _ => True)
      (finishFrom system cache (longHeader system fuel) level count) := by
    intro count
    apply Enacts.reads
    intro nids _
    apply (Enacts.fold (fun totals nid _ => processNid_enacts shows totals nid) _).andThen
    intro totals value _ current _
    rcases closing_returns cache value current with ⟨result, reached, returned, _⟩
    exact ⟨result, reached, returned, rfl, trivial⟩
  have ends : forall count, Ends (tallyScript system cache (fun _ => outcome) level count) := by
    intro count
    have headed : Ends (.reading outcome) := by
      rw [← ended]
      exact quiet
    apply Ends.halts.andThen
    intro nids _
    exact (Ends.fold (nidScript_ends headed level) _).andThen fun _ _ => Ends.returns _
  intro stuck
  change (finishFrom system cache (longHeader system fuel) level
    ((world.tables cache.address).cpuSlabsFree + (world.tables cache.address).cpuFreelists.length)).run
      world = _ at stuck
  exact ends _ ((enacts _).of_error ended stuck).1

/-- How the scan of a known cache ends. -/
theorem processPercpu_ends {fuel level : Nat} {world : SlubWorld}
    (known : system.caches cache.address = some cache)
    (headed : forall other, system.caches other.address = some other ->
      headerOutcome system cache fuel world.tables other ≠ .error .outOfFuel)
    (scanned : forall outcome level, (forall other, system.caches other.address = some other ->
        outcome other ≠ .error .outOfFuel) ->
      Ends (scanScript system cache (world.tables cache.address).cpuFreelistsSizes.length outcome
        level fuel (world.tables cache.address).cpuSlabs.isEmpty)) :
    match (processPercpu system cache (longHeader system fuel) level fuel).run world with
    | .ok _ after => Ends (passScript system cache 0 fuel (after.tables cache.address))
    | .error error _ => error ≠ .outOfFuel := by
  have enacts := processPercpu_enacts (percpu_shows known level) fuel world.tables
    (undisturbed_initially system cache fuel world.tables)
  cases run : (processPercpu system cache (longHeader system fuel) level fuel).run world with
  | error error after =>
      rintro rfl
      have stuck := (enacts.of_error rfl run).1
      unfold percpuScript at stuck
      split at stuck
      · cases stuck
      · exact scanned _ level headed stuck
  | ok _ after =>
      rcases enacts.of_ok rfl run with ⟨_, _, shown, steady⟩
      unfold passScript
      apply (Ends.returns _).chosen
      have percpu : Ends (if (after.tables cache.address).cpuSlabs.isEmpty = false ∧ (0 = 0) then
          pure ⟨⟩ else scanScript system cache (after.tables cache.address).cpuFreelistsSizes.length
            noHeader 0 fuel (after.tables cache.address).cpuSlabs.isEmpty) := by
        by_cases none : (after.tables cache.address).cpuSlabs.isEmpty = true
        · have empty : (world.tables cache.address).cpuSlabs.isEmpty = true := by
            have grows := (performed_grows (percpuScript system cache
              (headerOutcome system cache fuel world.tables) level fuel (world.tables cache.address)).actions
              (percpuView cache world)).slabs
            rw [← shown] at grows
            change (world.tables cache.address).cpuSlabs <+: (after.tables cache.address).cpuSlabs
              at grows
            rw [List.isEmpty_iff.mp none] at grows
            exact List.isEmpty_iff.mpr (List.prefix_nil.mp grows)
          rw [steady.places, none, ← empty]
          exact (Ends.returns _).chosen (scanned noHeader 0 nofun)
        · rw [if_pos ⟨Bool.eq_false_iff.mpr none, rfl⟩]
          exact Ends.returns _
      exact percpu.andThen fun _ _ => nodesRead_ends system cache

/-- A quiet pass over a cache ends, if its scan does. -/
theorem passScript_ends {fuel : Nat} {known : SlubTables}
    (scanned : Ends (scanScript system cache known.cpuFreelistsSizes.length noHeader 0 fuel
      known.cpuSlabs.isEmpty)) : Ends (passScript system cache 0 fuel known) :=
  (Ends.returns _).chosen (((Ends.returns _).chosen scanned).andThen fun _ _ =>
    nodesRead_ends system cache)

/-- A pass over a known cache ends, if the scans of all known caches do. -/
theorem processAll_ends {fuel : Nat} {world : SlubWorld}
    (scanned : forall other, system.caches other.address = some other -> forall outcome level,
      (forall third, system.caches third.address = some third ->
        outcome third ≠ .error .outOfFuel) ->
      Ends (scanScript system other (world.tables other.address).cpuFreelistsSizes.length outcome
        level fuel (world.tables other.address).cpuSlabs.isEmpty))
    (known : system.caches cache.address = some cache) (level : Nat) (after : SlubWorld) :
    (processAll system cache fuel level).run world ≠ .error .outOfFuel after := by
  have headed : forall other, system.caches other.address = some other ->
      headerOutcome system cache fuel world.tables other ≠ .error .outOfFuel := by
    intro other registered
    unfold headerOutcome
    split
    · split
      · exact nofun
      · exact nodesRead_ends system cache
    · exact passScript_ends (scanned other registered noHeader 0 nofun)
  have scan : match (processPercpu system cache (longHeader system fuel) level fuel).run world with
      | .ok _ after => Ends (passScript system cache 0 fuel (after.tables cache.address))
      | .error error _ => error ≠ .outOfFuel :=
    processPercpu_ends known headed (scanned cache known)
  unfold processAll
  rw [processAllWith_eq]
  change (if level = 0 ∧ (world.tables cache.address).processed = true then pure none
    else processPercpu system cache (longHeader system fuel) level fuel >>= fun _ =>
      finish system cache (longHeader system fuel) level : SlubM (Option Totals)).run world ≠ _
  split
  · exact nofun
  · rw [EStateM.run_bind]
    cases run : (processPercpu system cache (longHeader system fuel) level fuel).run world with
    | error error reached =>
        rw [run] at scan
        intro stuck
        cases stuck
        exact scan rfl
    | ok value reached =>
        rw [run] at scan
        exact finish_ends scan after

/-- A cache with an endless list is scanned forever when it is checked. -/
theorem processAll_endless {world : SlubWorld}
    (endless : EndlessScan system cache (world.tables cache.address)) :
    ¬ Terminates (fun fuel => processAll system cache fuel 1) world := by
  rintro ⟨bound, ends⟩
  have enacts : Enacts (localView cache) performLocal _ _ _ (processAll system cache bound 1) :=
    processAllWith_enacts_local Nat.one_lt_two bound (world.tables cache.address)
  have run := enacts world rfl
  have stuck : (passScript system cache 1 bound (world.tables cache.address)).ending =
      .error .outOfFuel := by
    unfold passScript
    rw [if_neg fun both => Nat.one_ne_zero both.1]
    apply Script.bind_ending_error.mpr (.inl _)
    unfold percpuScript
    rw [if_neg fun both => Nat.one_ne_zero both.2]
    exact scanScript_endless endless bound
  rw [stuck] at run
  rcases run with ⟨after, ran, _⟩
  exact ends bound (Nat.le_refl bound) after ran

/-- `process_all` ends on all known caches at every print level, if and only if
no scan of one of them comes to an endless partial list. -/
theorem processAll_terminates_iff (system : SlubSystem) (world : SlubWorld)
    (finite : {address | system.caches address ≠ none}.Finite) :
    (forall cache, system.caches cache.address = some cache -> forall level,
      Terminates (fun fuel => processAll system cache fuel level) world) <->
      forall cache, system.caches cache.address = some cache ->
        ¬ EndlessScan system cache (world.tables cache.address) := by
  constructor
  · intro ends cache known endless
    exact processAll_endless endless (ends cache known 1)
  · intro noneEndless cache known level
    have all : Filter.Eventually (fun fuel => forall address,
        address ∈ {address | system.caches address ≠ none} -> forall other,
        system.caches address = some other -> forall outcome level,
        (forall third, system.caches third.address = some third ->
          outcome third ≠ .error .outOfFuel) ->
        Ends (scanScript system other (world.tables other.address).cpuFreelistsSizes.length outcome
          level (fuel + 1) (world.tables other.address).cpuSlabs.isEmpty)) Filter.atTop := by
      apply (Filter.eventually_all_finite finite).mpr
      intro address member
      cases found : system.caches address with
      | none => exact False.elim (member found)
      | some other =>
          have registered : system.caches other.address = some other := by
            rw [system.registered address other found]
            exact found
          apply (scanScript_ends_eventually (noneEndless other registered)).mono
          intro fuel ends same equal
          cases equal
          exact ends
    rcases Filter.eventually_atTop.mp all with ⟨bound, enough⟩
    refine ⟨bound + 1, ?_⟩
    intro fuel larger after
    obtain ⟨less, rfl⟩ : Exists fun less : Nat => fuel = less + 1 :=
      ⟨fuel - 1, by omega⟩
    apply processAll_ends _ known level after
    intro other registered
    refine enough less (by omega) other.address ?_ other registered
    rw [Set.mem_ofPred_eq, registered]
    exact nofun

/-- A cache whose only processor holds one slab on its partial list. -/
def onePartial : KmemCacheSLUB where
  name := "one"
  address := 16
  size := 64
  flags := 0
  fpOffset := 0
  redLeftPadField := 0
  inuse := 64
  cpuSlab := fun _ => .ok ⟨.ok 0, .ok 0, .ok 4096⟩
  nodelist := fun _ => .ok none

/-- The slab has one object, which is in use, and is followed by the given one. -/
def onePartialSystem (next : Nat) : SlubSystem :=
  .single onePartial [0] [(4096, ⟨.ok 0, .ok 1, .ok 1, .ok 1, .ok 16, .ok 1, .ok next⟩)] []

/-- The caches before anything was done with them. -/
def freshWorld (system : SlubSystem) : SlubWorld :=
  ⟨fun _ => freshTables system, []⟩

theorem processAll_terminates_iff_oneSlab :
    {address | (onePartialSystem 0).caches address ≠ none}.Finite ∧
      Terminates (fun fuel => processAll (onePartialSystem 0) onePartial fuel 2)
        (freshWorld (onePartialSystem 0)) := by
  have finite : {address | (onePartialSystem 0).caches address ≠ none}.Finite := by
    apply (Set.finite_singleton 16).subset
    intro address known
    by_contra other
    exact known (if_neg other)
  refine ⟨finite, (processAll_terminates_iff (onePartialSystem 0) _ finite).mpr ?_ onePartial rfl 2⟩
  intro cache known endless
  have same : onePartial = cache := by
    have found : (if cache.address = 16 then some onePartial else none) = some cache := known
    split at found
    · exact Option.some.inj found
    · cases found
  subst same
  rcases endless with ⟨before, cpu, after, first, split, earlier, reaches, endless⟩
  have online : [0] = before ++ cpu :: after := split
  rw [List.singleton_eq_append_iff] at online
  rcases online with ⟨_, last⟩ | ⟨_, impossible⟩
  · cases last
    have found : Reaches (onePartialSystem 0) onePartial 1 true 0 4096 := rfl
    have equal : first = 4096 := Except.ok.inj (Eq.trans (Eq.symm reaches) found)
    subst equal
    have ended : (chainWalk (partialLink (onePartialSystem 0) true) 1 4096).2 = .null := rfl
    cases ended.symm.trans (endless 1)
  · cases impossible

theorem processAll_runs_forever :
    (onePartialSystem 4096).caches 16 = some onePartial ∧
      ¬ Terminates (fun fuel => processAll (onePartialSystem 4096) onePartial fuel 1)
        (freshWorld (onePartialSystem 4096)) := by
  refine ⟨rfl, processAll_endless ⟨[], 0, [], 4096, rfl, nofun, rfl, ?_⟩⟩
  intro limit
  induction limit with
  | zero => rfl
  | succ limit inductionHypothesis => exact inductionHypothesis

end KmemCacheSLUB
end Slab
end CrashPython

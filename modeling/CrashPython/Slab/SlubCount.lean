import CrashPython.Slab.SlubSettled
import Mathlib.Algebra.BigOperators.Ring.Finset

namespace CrashPython
namespace Slab
namespace SlubImage

open Library Types KmemCacheSLUB

/-!
# Counting the free objects

The number of free objects that a pass prints is added up from three sources: the
counters of the slabs that processors hold, the chains of the processors, and the
counters of the slabs on the lists of the nodes.  The query `obj_in_use` looks for
one object in the chain of its slab and among the objects of the processors.  On a
consistent image the number is the number of objects that are not in use.
-/

variable {image : SlubImage} {system : SlubSystem} {cache : KmemCacheSLUB}

/-! ## Counting members -/

/-- Counting the members of a list that is part of another one. -/
theorem countP_toNat_mem {values : List Int} {chain : List Nat} (distinct : values.Nodup)
    (different : chain.Nodup) (nonNull : 0 ∉ chain)
    (inside : forall obj, obj ∈ chain -> (obj : Int) ∈ values) :
    values.countP (fun value => decide (value.toNat ∈ chain)) = chain.length := by
  have same : (values.filter fun value => decide (value.toNat ∈ chain)).Perm
      (chain.map Int.ofNat) := by
    apply (List.perm_ext_iff_of_nodup (distinct.filter _)
      (different.map fun first second equal => Int.ofNat.inj equal)).mpr
    intro value
    rw [List.mem_filter, decide_eq_true_iff, List.mem_map]
    constructor
    · rintro ⟨_, member⟩
      refine ⟨value.toNat, member, ?_⟩
      have positive : value.toNat ≠ 0 := fun null => nonNull (null ▸ member)
      exact Int.toNat_of_nonneg (by omega)
    · rintro ⟨obj, member, rfl⟩
      exact ⟨inside obj member, member⟩
  rw [List.countP_eq_length_filter, same.length_eq, List.length_map]

/-- Counting what has one of two properties, which exclude each other. -/
theorem countP_or_of_disjoint {Value : Type} {values : List Value} {first second : Value -> Bool}
    (apart : forall value, value ∈ values -> ¬ (first value = true ∧ second value = true)) :
    values.countP (fun value => first value || second value) =
      values.countP first + values.countP second := by
  induction values with
  | nil => rfl
  | cons value rest inductionHypothesis =>
      have here := apart value List.mem_cons_self
      have later := inductionHypothesis fun other member =>
        apart other (List.mem_cons_of_mem value member)
      simp only [List.countP_cons, later]
      cases one : first value with
      | false =>
          simp only [Bool.false_or, Bool.false_eq_true, if_false]
          omega
      | true =>
          have none : second value = false :=
            Bool.eq_false_iff.mpr fun two => here ⟨one, two⟩
          simp only [none, Bool.or_false, Bool.false_eq_true, if_true, if_false]
          omega

/-! ## What the image counts -/

theorem nrFreeOf_append (first second : List Nat) :
    image.nrFreeOf cache (first ++ second) =
      image.nrFreeOf cache first + image.nrFreeOf cache second := by
  simp only [nrFreeOf]
  rw [List.map_append, List.sum_append]

/-- The free objects that the walk along the lists of the nodes adds. -/
theorem addNid_free (nids : List Nat) (totals : NodeTotals) :
    (nids.foldl (image.addNid cache) totals).nrFreeObjs = totals.nrFreeObjs +
      image.nrFreeOf cache (nids.flatMap fun nid => (image.node nid).elim [] NodeImage.onPartial) := by
  induction nids generalizing totals with
  | nil => exact (Int.add_zero _).symm
  | cons nid rest inductionHypothesis =>
      rw [List.foldl_cons, inductionHypothesis, List.flatMap_cons, nrFreeOf_append, ← Int.add_assoc]
      congr 1
      simp only [addNid]
      cases image.node nid with
      | none => exact (Int.add_zero _).symm
      | some node => rfl

section Sums

variable (consistent : image.Consistent system cache)

include consistent

/-- The counters of all slabs come to the free objects of the slabs that are held
or listed. -/
theorem nrFreeOf_slabs : image.nrFreeOf cache image.slabs =
    image.nrFreeOf cache (image.held system) + image.nrFreeOf cache (image.listed system) := by
  have full : image.nrFreeOf cache image.full = 0 := by
    simp only [nrFreeOf]
    apply List.sum_eq_zero
    intro value member
    rcases List.mem_map.mp member with ⟨page, inFull, rfl⟩
    simp only [SlabSLUB.nrFree, slab]
    rw [consistent.full page inFull]
    exact Int.sub_self _
  have places : image.nrFreeOf cache image.slabs = image.nrFreeOf cache _ :=
    (consistent.places.map fun page => (image.slab cache page).nrFree).sum_eq
  rw [places, nrFreeOf_append, nrFreeOf_append, full, Int.add_zero]

/-- The number of free objects that a pass prints. -/
theorem totals_free : (image.totals system cache).nrFreeObjs =
    image.nrFreeOf cache image.slabs + (image.cached system).length := by
  simp only [totals]
  simp only [addNid_free]
  rw [nrFreeOf_slabs consistent]
  simp only [listed]
  omega

/-- The chain of a slab is as long as its counters say. -/
theorem free_length {page : Nat} (member : page ∈ image.slabs) :
    ((image.free page).length : Int) = (image.slab cache page).nrFree := by
  have count := (consistent.slab page member).count
  unfold SlabSLUB.nrFree slab
  simp only
  omega

theorem cached_nonNull : 0 ∉ image.cached system := by
  intro member
  rcases List.mem_flatMap.mp member with ⟨cpu, online, inside⟩
  rcases (consistent.cpu cpu online).cpuSlab with ⟨_, _, _, ⟨first, _, chain⟩, _⟩
  exact chain.nonNull inside

theorem free_nonNull {page : Nat} (member : page ∈ image.slabs) : 0 ∉ image.free page := by
  rcases (consistent.slab page member).freelist with ⟨first, _, chain⟩
  exact chain.nonNull

/-- The objects of a slab that are on its chain or on that of a processor. -/
theorem countP_slab {page : Nat} (member : page ∈ image.slabs) :
    ((image.objects system cache page).countP fun obj =>
      decide (obj.toNat ∈ image.free page) || decide (obj.toNat ∈ image.cached system)) =
      (image.free page).length + (image.objects system cache page).countP fun obj =>
        decide (obj.toNat ∈ image.cached system) := by
  have there := consistent.slab page member
  rw [countP_or_of_disjoint, countP_toNat_mem ((List.nodup_flatMap.mp consistent.apart).1 page member)
    there.distinct (free_nonNull consistent member) there.own]
  rintro obj _ ⟨free, cached⟩
  rcases List.mem_flatMap.mp (of_decide_eq_true cached) with ⟨cpu, online, onChain⟩
  exact (consistent.cpu cpu online).apart _ onChain page member (of_decide_eq_true free)

/-- The objects on the chains of the processors, counted slab by slab. -/
theorem countP_cached :
    (image.slabs.map fun page => (image.objects system cache page).countP fun obj =>
      decide (obj.toNat ∈ image.cached system)).sum = (image.cached system).length := by
  have counted := countP_toNat_mem consistent.apart consistent.cached_nodup
    (cached_nonNull consistent) (by
      intro obj member
      rcases List.mem_flatMap.mp member with ⟨cpu, online, onChain⟩
      have own := (consistent.cpu cpu online).own obj onChain
      exact List.mem_flatMap.mpr ⟨_, consistent.active_mem online own.1, own.2⟩)
  rw [List.countP_flatMap] at counted
  exact counted

/-- The objects on any chain are as many as a pass prints. -/
theorem countP_free :
    (((image.slabs.map fun page => (image.objects system cache page).countP fun obj =>
      decide (obj.toNat ∈ image.free page) || decide (obj.toNat ∈ image.cached system)).sum : Nat) :
        Int) = (image.totals system cache).nrFreeObjs := by
  have each : (image.slabs.map fun page => (image.objects system cache page).countP fun obj =>
      decide (obj.toNat ∈ image.free page) || decide (obj.toNat ∈ image.cached system)) =
      image.slabs.map fun page => (image.free page).length +
        (image.objects system cache page).countP fun obj =>
          decide (obj.toNat ∈ image.cached system) :=
    List.map_congr_left fun page member => countP_slab consistent member
  have lengths : (((image.slabs.map fun page => (image.free page).length).sum : Nat) : Int) =
      image.nrFreeOf cache image.slabs := by
    rw [Nat.cast_list_sum, List.map_map]
    simp only [nrFreeOf]
    congr 1
    exact List.map_congr_left fun page member => free_length consistent member
  rw [each, List.sum_map_add, countP_cached consistent, Nat.cast_add, lengths,
    totals_free consistent]

end Sums

/-! ## The query for one object -/

/-- Whether `obj_in_use` answers that an object is not in use. -/
def notInUse (system : SlubSystem) (fuel : Nat) (world : SlubWorld) (slab : SlabSLUB) (obj : Int) :
    Bool :=
  match (SlabSLUB.objInUse system fuel slab obj.toNat).run world with
  | .ok answer _ => !answer.1
  | .error _ _ => false

/-- The number of objects, over all slabs of the cache, that are not in use. -/
def nrNotInUse (image : SlubImage) (system : SlubSystem) (cache : KmemCacheSLUB) (fuel : Nat)
    (world : SlubWorld) : Nat :=
  (image.slabs.map fun page =>
    (image.objects system cache page).countP
      (notInUse system fuel world (image.slab cache page))).sum

section Query

variable (consistent : image.Consistent system cache)
variable {fuel : Nat} (short : image.slabs.length < fuel)

include consistent short

/-- The query returns, and answers from the chains of the image. -/
theorem objInUse_settled {world : SlubWorld}
    (settled : image.Settled system cache (world.tables cache.address)) {page : Nat}
    (member : page ∈ image.slabs) (addr : Nat) :
    Exists fun answer : Bool × Option Nat => Exists fun after : SlubWorld =>
      (SlabSLUB.objInUse system fuel (image.slab cache page) addr).run world = .ok answer after ∧
        (answer.1 = false <-> addr ∈ image.free page ∨ addr ∈ image.cached system) := by
  rcases slubProcessOnce_settled consistent short settled with ⟨reached, processed, _, filled, _⟩
  have fresh : (image.slab cache page).freePopulated = false := rfl
  have populate := SlabSLUB.populateFree_enacts system fresh reached.tables reached rfl
  rw [(consistent.slab page member).freeObjects] at populate
  rcases populate with ⟨populated, after, ran, _, _, free, same⟩
  have own : (image.slab cache page).kmemCache = cache := rfl
  have onChain : ((after.tables cache.address).cpuFreelists.lookup addr).isSome = true <->
      addr ∈ image.cached system := by
    rw [isSome_lookup_iff, same, filled.freelists]
  simp only [SlabSLUB.objInUse]
  rw [own, EStateM.run_bind, processed]
  simp only [EStateM.run_bind, ran]
  by_cases inFree : addr ∈ populated.free
  · rw [if_pos inFree]
    rw [free, List.mem_toFinset] at inFree
    exact ⟨(false, none), after, rfl, ⟨fun _ => .inl inFree, fun _ => rfl⟩⟩
  · rw [if_neg inFree, tables_bind]
    rw [free, List.mem_toFinset] at inFree
    cases found : (after.tables cache.address).cpuFreelists.lookup addr with
    | some cpu =>
        rw [found] at onChain
        exact ⟨(false, some cpu), after, rfl, ⟨fun _ => .inr (onChain.mp rfl), fun _ => rfl⟩⟩
    | none =>
        rw [found] at onChain
        refine ⟨(true, none), after, rfl, ⟨Bool.noConfusion, ?_⟩⟩
        rintro (impossible | cached)
        · exact False.elim (inFree impossible)
        · exact Bool.noConfusion (onChain.mpr cached)

/-- Asking for every object of every slab counts what a pass prints. -/
theorem nrNotInUse_settled {world : SlubWorld}
    (settled : image.Settled system cache (world.tables cache.address)) :
    (image.nrNotInUse system cache fuel world : Int) = (image.totals system cache).nrFreeObjs := by
  rw [← countP_free consistent]
  simp only [nrNotInUse]
  congr 2
  apply List.map_congr_left
  intro page member
  apply List.countP_congr
  intro obj _
  rcases objInUse_settled consistent short settled member obj.toNat with
    ⟨answer, after, ran, told⟩
  simp only [notInUse]
  rw [ran]
  simp only [Bool.not_eq_true', Bool.or_eq_true, decide_eq_true_eq]
  exact told

end Query

/-! ## Runs -/

/-- The states that any sequence of queries on the cache comes to. -/
inductive QueryRun (system : SlubSystem) (cache : KmemCacheSLUB) (fuel : Nat) : SlubWorld -> Prop where
  | start {world : SlubWorld} (fresh : world.tables cache.address = freshTables system) :
      QueryRun system cache fuel world
  | query {world : SlubWorld} (query : SlubQuery) (run : QueryRun system cache fuel world) :
      QueryRun system cache fuel (finalState ((query.ask system cache fuel).run world))

section Runs

variable (consistent : image.Consistent system cache)
variable {fuel : Nat} (short : image.slabs.length < fuel)

include consistent short

/-- A part after which the dictionaries stay as `slub_process_once` left them. -/
theorem afterOnce_settled {Value : Type} {rest : PUnit -> SlubM Value} {world : SlubWorld}
    (settled : image.Settled system cache (world.tables cache.address))
    (kept : forall value, Evolves (Keeps SlubWorld.tables) (rest value)) :
    image.Settled system cache ((finalState ((slubProcessOnce system fuel cache >>= rest).run
      world)).tables cache.address) := by
  rcases slubProcessOnce_settled consistent short settled with ⟨reached, processed, later, _, _⟩
  have same : (finalState ((rest ⟨⟩).run reached)).tables = reached.tables := kept ⟨⟩ reached
  rw [EStateM.run_bind, processed]
  change image.Settled system cache ((finalState ((rest ⟨⟩).run reached)).tables cache.address)
  rw [same]
  exact later

/-- Every query leaves the dictionaries settled. -/
theorem ask_settled {world : SlubWorld}
    (settled : image.Settled system cache (world.tables cache.address)) (query : SlubQuery) :
    image.Settled system cache
      ((finalState ((query.ask system cache fuel).run world)).tables cache.address) := by
  rcases ask_form system cache fuel query with pass | ⟨_, _, rest, fills, looks⟩
  · rcases processAll_settled consistent short settled query.level with ⟨after, ran, later, _⟩
    rw [pass, finalState_discard, ran]
    exact later
  · rw [fills, finalState_discard]
    apply afterOnce_settled consistent short settled
    exact looks _ (keeps_accumulates SlubWorld.tables) (populateFree_tables system)

theorem queryRun_settled {world : SlubWorld} (run : QueryRun system cache fuel world) :
    image.Settled system cache (world.tables cache.address) := by
  induction run with
  | start fresh =>
      rw [fresh]
      exact freshTables_settled
  | query query run inductionHypothesis => exact ask_settled consistent short inductionHypothesis query

/-- There are numbers that every pass over a consistent image comes to, whatever
queries were made before.  The number of free objects among them is the number of
objects that are not in use. -/
theorem processAll_counts_not_in_use :
    Exists fun totals : Totals => forall world, QueryRun system cache fuel world ->
      (forall level, Exists fun after : SlubWorld =>
        (processAll system cache fuel level).run world =
          .ok (if level = 0 ∧ (world.tables cache.address).processed = true then none
            else some totals) after) ∧
      totals.nrFreeObjs = image.nrNotInUse system cache fuel world ∧
      forall page, page ∈ image.slabs ->
        SlabSLUB.fromPageObj system page = .ok (image.slab cache page) ∧
          forall addr, Exists fun answer : Bool × Option Nat => Exists fun after : SlubWorld =>
            (SlabSLUB.objInUse system fuel (image.slab cache page) addr).run world =
              .ok answer after := by
  refine ⟨image.totals system cache, ?_⟩
  intro world run
  have settled := queryRun_settled consistent short run
  refine ⟨?_, (nrNotInUse_settled consistent short settled).symm, ?_⟩
  · intro level
    rcases processAll_settled consistent short settled level with ⟨after, ran, _⟩
    exact ⟨after, ran⟩
  · intro page member
    refine ⟨(consistent.slab page member).fromPageObj consistent.known, ?_⟩
    intro addr
    rcases objInUse_settled consistent short settled member addr with ⟨answer, after, ran, _⟩
    exact ⟨answer, after, ran⟩

end Runs

/-- A cache on one processor, whose chain has one object. -/
def smallCache : KmemCacheSLUB where
  name := "small"
  address := 16
  size := 64
  flags := 0
  fpOffset := 0
  redLeftPadField := 0
  inuse := 64
  cpuSlab := fun _ => .ok ⟨.ok 65600, .ok 4096, .ok 0⟩
  nodelist := fun _ => .ok (some ⟨.ok 2, .ok 4, .ok 1, 8, 24⟩)

/-- The active slab is at 4096, and another slab is on the partial list of the
node. -/
def smallSystem : SlubSystem where
  __ := SlubSystem.single smallCache [0]
    [(4096, ⟨.ok 0, .ok 2, .ok 2, .ok 1, .ok 16, .ok 0, .ok 0⟩),
      (4160, ⟨.ok 69632, .ok 2, .ok 1, .ok 0, .ok 16, .ok 0, .ok 0⟩)]
    [(65600, 0), (69632, 0)]
  pageClass := { pgSlab := 7, vmemmapBase := 4096, directmapBase := 65536 }
  lists := .ofTable [(8, ⟨4168, 4168⟩), (4168, ⟨8, 8⟩), (24, ⟨24, 24⟩)] (by decide)
  lruOffset := 8

/-- What is where in this memory. -/
def smallImage : SlubImage where
  slabs := [4096, 4160]
  nrObjects := fun _ => 2
  nrInuse := fun page => if page = 4096 then 2 else 1
  free := fun page => if page = 4096 then [] else [69632]
  lockless := fun _ => [65600]
  active := fun _ => 4096
  onPartial := fun _ => []
  node := fun _ => some ⟨2, 4, 1, [4160], []⟩
  full := []

theorem smallImage_listed : Listed smallSystem 8 [4160] := by
  refine ⟨⟨?_, rfl, by decide, by decide, by decide⟩, ?_⟩
  · intro index bounded
    rw [Nat.lt_one_iff.mp bounded]
    rfl
  · intro index node previous nodeAt previousAt
    cases index with
    | zero =>
        cases nodeAt
        cases previousAt
        exact ⟨⟨8, 8⟩, rfl, rfl⟩
    | succ index => cases nodeAt

theorem smallImage_consistent : smallImage.Consistent smallSystem smallCache where
  known := rfl
  cpus := rfl
  nids := List.cons_ne_nil _ _
  places := by decide
  distinct := by decide
  nonNull := by decide
  full := nofun
  apart := by decide
  slab := by
    intro page member
    rcases List.mem_cons.mp member with rfl | rest
    · exact ⟨by decide, rfl, rfl, rfl, ⟨1, rfl⟩, ⟨0, rfl⟩, ⟨0, rfl, .done⟩, by decide, rfl, by decide⟩
    · cases List.mem_singleton.mp rest
      refine ⟨by decide, rfl, rfl, rfl, ⟨0, rfl⟩, ⟨0, rfl⟩, ⟨69632, rfl, ?_⟩, by decide, rfl,
        by decide⟩
      exact .node (by decide) rfl .done
  cpu := by
    intro cpu online
    cases List.mem_singleton.mp online
    refine ⟨⟨_, rfl, rfl, ⟨65600, rfl, .node (by decide) rfl .done⟩, 0, rfl, .done⟩, by decide,
      by decide, by decide⟩
  node := by
    intro nid possible
    cases List.mem_singleton.mp possible
    refine ⟨nofun, ?_⟩
    intro node found
    cases found
    refine ⟨_, rfl, rfl, rfl, rfl, smallImage_listed, ⟨⟨nofun, rfl, by decide, by decide, by decide⟩,
      nofun⟩, List.nil_subset _⟩

theorem processAll_counts_not_in_use_small :
    Exists fun totals : Totals => Exists fun after : SlubWorld =>
      (processAll smallSystem smallCache 3 1).run ⟨fun _ => freshTables smallSystem, []⟩ =
        .ok (some totals) after ∧
      totals.nrFreeObjs = smallImage.nrNotInUse smallSystem smallCache 3
        ⟨fun _ => freshTables smallSystem, []⟩ := by
  rcases processAll_counts_not_in_use smallImage_consistent (Nat.lt_succ_self 2) with
    ⟨totals, counts⟩
  have fresh := counts ⟨fun _ => freshTables smallSystem, []⟩ (.start rfl)
  rcases fresh.1 1 with ⟨after, ran⟩
  exact ⟨totals, after, ran, fresh.2.1⟩

end SlubImage
end Slab
end CrashPython

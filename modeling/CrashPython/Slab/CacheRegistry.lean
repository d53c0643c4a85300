import CrashPython.Library.Dict
import CrashPython.Slab.ArrayCaches
import CrashPython.Types.ListEntries
import CrashPython.Util.SafeInt

namespace CrashPython
namespace Slab

open Library Types Util

/-!
# The caches that are known

The list of all caches is walked once, and the wrappers of the caches are put into two dictionaries.
One has their names for its keys and the other one their addresses.

The addresses on a list are different, but nothing keeps two caches from having the same name.
Only the last one of them is then known by its name, and only that one is among all caches that
`kmem -s` goes through; the others are known by their addresses.
-/

/-- What the callback for the list of the caches reads.  A wrapper has the address it is made
with. -/
structure CacheMemory (Cache : Type) where
  lists : ListMemory
  listOffset : Nat
  name : Cache -> PyString
  address : Cache -> Nat
  create : Nat -> Except SlabException Cache
  created : forall entry cache, create entry = .ok cache -> address cache = entry

/-- The two dictionaries of the caches. -/
structure KmemCaches (Cache : Type) where
  byName : Dict PyString Cache := .empty
  byAddr : Dict Nat Cache := .empty

/-- The exception `KmemCacheNotFound`, for a name or an address. -/
structure KmemCacheNotFound where
  query : String
deriving DecidableEq, Repr

/-- Its message. -/
def KmemCacheNotFound.text (error : KmemCacheNotFound) : String :=
  "No kmem cache found for " ++ error.query ++ "."

namespace KmemCaches

variable {Cache : Type}

/-- `kmem_cache_from_addr`. -/
def kmemCacheFromAddr (known : KmemCaches Cache) (addr : Int) : Except KmemCacheNotFound Cache :=
  match (if addr < 0 then none else known.byAddr.value addr.toNat) with
  | none => .error ⟨toString addr⟩
  | some cache => .ok cache

/-- `kmem_cache_from_name`. -/
def kmemCacheFromName (known : KmemCaches Cache) (name : PyString) : Except KmemCacheNotFound Cache :=
  match known.byName.value name with
  | none => .error ⟨String.ofList name⟩
  | some cache => .ok cache

/-- `kmem_cache_get_all`. -/
def kmemCacheGetAll (known : KmemCaches Cache) : List Cache :=
  known.byName.values

/-- `_find_kmem_cache`. -/
def findKmemCache (limit : Nat) (known : KmemCaches Cache) (query : PyString) : Option Cache :=
  match known.kmemCacheFromName query with
  | .ok cache => some cache
  | .error _ =>
      match safeInt limit query with
      | none => none
      | some addr => (known.kmemCacheFromAddr addr).toOption

end KmemCaches

namespace CacheMemory

variable {Cache : Type} (memory : CacheMemory Cache)

/-- The assignments of the loop body of `__setup_slab_caches`. -/
def register (known : KmemCaches Cache) (entry : Nat) (cache : Cache) : KmemCaches Cache where
  byName := known.byName.set (memory.name cache) cache
  byAddr := known.byAddr.set entry cache

/-- The loop of `__setup_slab_caches`. -/
def registerAll : List Nat -> KmemCaches Cache -> KmemCaches Cache × Ending SlabException
  | [], known => (known, .completed)
  | entry :: rest, known =>
      match memory.create entry with
      | .error error => (known, .raised error)
      | .ok cache => registerAll rest (memory.register known entry cache)

/-- `__setup_slab_caches`. -/
def setupSlabCaches (head : Nat) (known : KmemCaches Cache) : KmemCaches Cache × Ending SlabException :=
  let run := listEntries memory.lists {} memory.listOffset head
  match memory.registerAll run.events known with
  | (known, .raised error) => (known, .raised error)
  | (known, .completed) => (known, run.ending.map .listFailure)

/-- The caches on the list. -/
structure Listed (head : Nat) (caches : List Cache) : Prop where
  sound : SoundList memory.lists memory.listOffset head (caches.map memory.address)
  made : forall cache, cache ∈ caches -> memory.create (memory.address cache) = .ok cache

variable {memory} {head : Nat} {caches : List Cache} {known : KmemCaches Cache}

/-- The dictionaries after all assignments. -/
theorem registerAll_made (made : forall cache, cache ∈ caches -> memory.create (memory.address cache) = .ok cache) :
    memory.registerAll (caches.map memory.address) known =
      (⟨known.byName.setAll (caches.map fun cache => (memory.name cache, cache)),
        known.byAddr.setAll (caches.map fun cache => (memory.address cache, cache))⟩, .completed) := by
  induction caches generalizing known with
  | nil => rfl
  | cons cache rest inductionHypothesis =>
      rw [List.map_cons, registerAll, made cache List.mem_cons_self]
      exact inductionHypothesis fun other member => made other (List.mem_cons_of_mem cache member)

/-- Entries that are all registered are the addresses of caches. -/
theorem made_of_registerAll {entries : List Nat}
    (completed : (memory.registerAll entries known).2 = .completed) :
    Exists fun caches : List Cache => entries = caches.map memory.address ∧
      forall cache, cache ∈ caches -> memory.create (memory.address cache) = .ok cache := by
  induction entries generalizing known with
  | nil => exact ⟨[], rfl, fun cache member => False.elim (List.not_mem_nil member)⟩
  | cons entry rest inductionHypothesis =>
      rw [registerAll] at completed
      cases made : memory.create entry with
      | error error =>
          rw [made] at completed
          cases completed
      | ok cache =>
          rw [made] at completed
          rcases inductionHypothesis completed with ⟨caches, shape, all⟩
          have here := memory.created entry cache made
          refine ⟨cache :: caches, ?_, List.forall_mem_cons.mpr ⟨here.symm ▸ made, all⟩⟩
          rw [List.map_cons, here, shape]

/-- The setup of a sound list. -/
theorem setupSlabCaches_listed (listed : memory.Listed head caches) :
    memory.setupSlabCaches head {} =
      (⟨Dict.empty.setAll (caches.map fun cache => (memory.name cache, cache)),
        Dict.empty.setAll (caches.map fun cache => (memory.address cache, cache))⟩, .completed) := by
  rw [setupSlabCaches, listed.sound.listEntries false, if_neg Bool.false_ne_true, List.nil_append,
    registerAll_made listed.made]
  rfl

/-- The setup goes through exactly for a sound list of caches that can be wrapped. -/
theorem setupSlabCaches_completed : (memory.setupSlabCaches head {}).2 = .completed <->
    Exists fun caches : List Cache => memory.Listed head caches := by
  constructor
  · intro completed
    rw [setupSlabCaches] at completed
    cases registered : memory.registerAll (listEntries memory.lists {} memory.listOffset head).events {} with
    | mk known ending =>
        rw [registered] at completed
        cases ending with
        | raised error => cases completed
        | completed =>
            have walked : (listEntries memory.lists {} memory.listOffset head).ending = .completed := by
              cases ended : (listEntries memory.lists {} memory.listOffset head).ending with
              | completed => rfl
              | raised error =>
                  rw [ended] at completed
                  cases completed
            rcases (listEntries_completed_iff false).mp walked with ⟨objects, sound⟩
            rw [sound.listEntries false, if_neg Bool.false_ne_true, List.nil_append] at registered
            rcases made_of_registerAll (congrArg Prod.snd registered) with ⟨caches, shape, made⟩
            exact ⟨caches, shape ▸ sound, made⟩
  · rintro ⟨caches, listed⟩
    rw [setupSlabCaches_listed listed]

/-- What is known of the caches of a list.  By its address each of them is found, and typing the
address finds it too unless a cache has this text for its name.  By a name the last one with the name
is found, and the last ones of all names are those that are gone through. -/
structure Known (memory : CacheMemory Cache) (caches : List Cache) (known : KmemCaches Cache) : Prop where
  byAddr : forall addr cache, known.kmemCacheFromAddr addr = .ok cache <->
    cache ∈ caches ∧ addr = memory.address cache
  byName : forall name cache, known.kmemCacheFromName name = .ok cache <->
    Exists fun before : List Cache => Exists fun later : List Cache =>
      caches = before ++ cache :: later ∧ memory.name cache = name ∧
        forall other, other ∈ later -> memory.name other ≠ name
  getAll : forall cache, cache ∈ known.kmemCacheGetAll <->
    known.kmemCacheFromName (memory.name cache) = .ok cache
  complete : known.kmemCacheGetAll = caches <-> (caches.map memory.name).Nodup
  typed : forall limit cache, cache ∈ caches ->
    (forall other, other ∈ caches -> memory.name other ≠ ['0', 'x'] ++ PyString.digits 16 (memory.address cache)) ->
      known.findKmemCache limit (['0', 'x'] ++ PyString.digits 16 (memory.address cache)) = some cache

theorem kmemCacheFromName_ok {name : PyString} {cache : Cache} :
    known.kmemCacheFromName name = .ok cache <-> known.byName.value name = some cache := by
  rw [KmemCaches.kmemCacheFromName]
  cases known.byName.value name with
  | none => exact ⟨fun impossible => (by cases impossible), fun impossible => (by cases impossible)⟩
  | some other =>
      exact ⟨fun same => congrArg some (Except.ok.inj same),
        fun same => congrArg Except.ok (Option.some.inj same)⟩

theorem kmemCacheFromAddr_natCast {entry : Nat} {cache : Cache} :
    known.kmemCacheFromAddr entry = .ok cache <-> known.byAddr.value entry = some cache := by
  rw [KmemCaches.kmemCacheFromAddr, if_neg (Int.not_lt.mpr (Int.natCast_nonneg entry)), Int.toNat_natCast]
  cases known.byAddr.value entry with
  | none => exact ⟨fun impossible => (by cases impossible), fun impossible => (by cases impossible)⟩
  | some other =>
      exact ⟨fun same => congrArg some (Except.ok.inj same),
        fun same => congrArg Except.ok (Option.some.inj same)⟩

/-- The last assignment to a key, where each value names its key. -/
theorem lastAssigned_keyed {Key : Type} [DecidableEq Key] (keyOf : Cache -> Key) {key : Key} {cache : Cache} :
    lastAssigned key (caches.map fun cache => (keyOf cache, cache)) = some cache <->
      Exists fun before : List Cache => Exists fun later : List Cache =>
        caches = before ++ cache :: later ∧ keyOf cache = key ∧
          forall other, other ∈ later -> keyOf other ≠ key := by
  rw [lastAssigned_map_iff]
  constructor
  · rintro ⟨before, other, later, shape, same, others⟩
    rcases Prod.mk.inj same with ⟨keyed, rfl⟩
    exact ⟨before, later, shape, keyed, others⟩
  · rintro ⟨before, later, shape, keyed, others⟩
    exact ⟨before, cache, later, shape, by rw [keyed], others⟩

/-- On a list with different addresses each cache is the last one with its address. -/
theorem lastAssigned_address (listed : memory.Listed head caches) {entry : Nat} {cache : Cache} :
    lastAssigned entry (caches.map fun cache => (memory.address cache, cache)) = some cache <->
      cache ∈ caches ∧ memory.address cache = entry := by
  constructor
  · intro found
    rcases List.mem_map.mp (mem_of_lastAssigned found) with ⟨other, member, same⟩
    rcases Prod.mk.inj same with ⟨here, rfl⟩
    exact ⟨member, here⟩
  · rintro ⟨member, here⟩
    rcases List.append_of_mem member with ⟨before, later, shape⟩
    refine (lastAssigned_keyed memory.address).mpr ⟨before, later, shape, here, fun other inside same => ?_⟩
    have distinct := listed.sound.distinct
    rw [shape, List.map_append, List.map_cons] at distinct
    exact (List.nodup_cons.mp (List.Nodup.of_append_right distinct)).1
      (List.mem_map.mpr ⟨other, inside, same.trans here.symm⟩)

/-- The setup goes through exactly for a sound list of caches that can be wrapped, and the caches
are then known: all by their addresses, the last one of each name by the name and among all caches. -/
theorem setupSlabCaches_known (memory : CacheMemory Cache) (head : Nat) :
    ((memory.setupSlabCaches head {}).2 = .completed <->
      Exists fun caches : List Cache => memory.Listed head caches) ∧
    forall caches, memory.Listed head caches -> memory.Known caches (memory.setupSlabCaches head {}).1 := by
  refine ⟨setupSlabCaches_completed, fun caches listed => ?_⟩
  rw [setupSlabCaches_listed listed]
  have placed : forall entry, (Dict.empty.setAll (caches.map fun cache => (memory.address cache, cache))).value entry =
      lastAssigned entry (caches.map fun cache => (memory.address cache, cache)) := by
    intro entry
    rw [Dict.setAll_value, assign_apply]
    exact Option.or_none
  have named : forall name, (Dict.empty.setAll (caches.map fun cache => (memory.name cache, cache))).value name =
      lastAssigned name (caches.map fun cache => (memory.name cache, cache)) := by
    intro name
    rw [Dict.setAll_value, assign_apply]
    exact Option.or_none
  have keyed : forall name cache, (Dict.empty.setAll (caches.map fun cache => (memory.name cache, cache))).value name =
      some cache -> memory.name cache = name := by
    intro name cache found
    rw [named, lastAssigned_keyed] at found
    rcases found with ⟨_, _, _, here, _⟩
    exact here
  refine ⟨?_, ?_, ?_, ?_, ?_⟩
  · intro addr cache
    by_cases negative : addr < 0
    · rw [KmemCaches.kmemCacheFromAddr, if_pos negative]
      refine ⟨fun impossible => (by cases impossible), fun both => ?_⟩
      have here := both.2
      omega
    · rcases Int.eq_ofNat_of_zero_le (Int.not_lt.mp negative) with ⟨entry, rfl⟩
      rw [kmemCacheFromAddr_natCast, placed, lastAssigned_address listed, eq_comm, Int.natCast_inj]
  · intro name cache
    rw [kmemCacheFromName_ok, named, lastAssigned_keyed]
  · intro cache
    rw [kmemCacheFromName_ok, KmemCaches.kmemCacheGetAll, Dict.mem_values]
    constructor
    · rintro ⟨name, found⟩
      rw [keyed name cache found]
      exact found
    · exact fun found => ⟨memory.name cache, found⟩
  · rw [KmemCaches.kmemCacheGetAll]
    constructor
    · intro same
      have keys := Dict.values_map_key memory.name keyed
      rw [same] at keys
      rw [keys]
      exact Dict.once _
    · intro different
      rw [Dict.values_setAll, List.map_map]
      · exact List.map_id _
      · rw [List.map_map]
        exact different
  · intro limit cache member unnamed
    have byName : (Dict.empty.setAll (caches.map fun cache => (memory.name cache, cache))).value
        (['0', 'x'] ++ PyString.digits 16 (memory.address cache)) = none := by
      rw [named, lastAssigned_of_others]
      intro pair listed
      rcases List.mem_map.mp listed with ⟨other, inside, same⟩
      rw [← same]
      exact unnamed other inside
    have byAddr : KmemCaches.kmemCacheFromAddr ⟨Dict.empty.setAll (caches.map fun cache => (memory.name cache, cache)),
        Dict.empty.setAll (caches.map fun cache => (memory.address cache, cache))⟩ (memory.address cache : Int) =
          .ok cache := by
      rw [kmemCacheFromAddr_natCast, placed, lastAssigned_address listed]
      exact ⟨member, rfl⟩
    rw [KmemCaches.findKmemCache, KmemCaches.kmemCacheFromName, byName, safeInt_marked]
    simp only [byAddr]
    rfl

end CacheMemory

/-- Two caches of one name: each is its address and its name. -/
def twinCaches : CacheMemory (Nat × PyString) where
  lists := .ofTable [(8, ⟨108, 208⟩), (108, ⟨208, 8⟩), (208, ⟨8, 108⟩)] (by decide)
  listOffset := 8
  name := Prod.snd
  address := Prod.fst
  create := fun entry => .ok (entry, "kmalloc-64".toList)
  created := by
    intro entry cache made
    cases made
    rfl

theorem setupSlabCaches_known_twin :
    twinCaches.Known [(100, "kmalloc-64".toList), (200, "kmalloc-64".toList)] (twinCaches.setupSlabCaches 8 {}).1 :=
  (CacheMemory.setupSlabCaches_known twinCaches 8).2 _
    ⟨.of_links [108, 208] (by decide) (by decide) (by decide) rfl, by
      intro cache member
      rcases List.mem_cons.mp member with rfl | later
      · rfl
      · rw [List.mem_singleton.mp later]
        rfl⟩

end Slab
end CrashPython

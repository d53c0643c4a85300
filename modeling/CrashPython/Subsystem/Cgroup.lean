import CrashPython.Library.PackedFields
import CrashPython.Library.PyString
import CrashPython.Types.ListEntries

namespace CrashPython
namespace Subsystem

open Library Types

/-!
# Control groups of `crash/subsystem/cgroup/__init__.py`

The names of the controllers come from an enumeration of the kernel, and a mask of controllers is
turned into names with them.

A task belongs to a `css_set`, and a `css_set` to one control group of each hierarchy.  Between
the two stand links, which are on a list of the `css_set` and on a list of the control group.  The
tasks of a control group are found along one of the lists, and the control group of a task along
the other.
-/

/-- Everything that can leave the functions here. -/
inductive CgroupError where
  | list (error : ListError)
  | notUnique (enum : PyString)
  | unknownNames (enum : PyString)
  | unknownControllers (unknown : Nat)
  | notUnderRoot
  | unreadable (address : Nat)
deriving DecidableEq, Repr

/-- The messages of the exceptions of the module.  The last one is not a format string in the
source, and nothing is put into it. -/
def CgroupError.text : CgroupError -> Option PyString
  | .notUnique enum => some ("Enum ".toList ++ enum ++ " is not unique".toList)
  | .unknownNames enum => some ("Enum ".toList ++ enum ++ " has unknown names".toList)
  | .unknownControllers unknown =>
      some ("Mask contains unknown controllers ".toList ++ PyString.digits 16 unknown)
  | .notUnderRoot =>
      some ("Task \x7bint(task.address):016x\x7d not under cgroup_root ".toList ++
        "\x7bint(cgroup_root.address):016x\x7d\x7d".toList)
  | .list _ => none
  | .unreadable _ => none

/-! ## Controllers -/

/-- The class attributes of `Subsys`.  The dictionary is in the order of insertion. -/
structure Subsys where
  names : List (Nat × PyString)
  availableMask : Nat
deriving DecidableEq, Repr

/-- The class before the enumeration is known. -/
def Subsys.unset : Subsys where
  names := []
  availableMask := 0

/-- The local variable `suffix`. -/
def idSuffix : PyString :=
  "_cgrp_id".toList

/-- The key that is skipped. -/
def subsysCount : PyString :=
  "CGROUP_SUBSYS_COUNT".toList

/-- `k[:-len(suffix)]`. -/
def stem (key : PyString) : PyString :=
  key.take (key.length - idSuffix.length)

/-- The body of the loop of `init_subsys_ids`. -/
def Subsys.add (enum : PyString) (subsys : Subsys) (key : PyString × Nat) : Except CgroupError Subsys :=
  if key.1 = subsysCount then .ok subsys
  else if key.2 ∈ subsys.names.map Prod.fst then .error (.notUnique enum)
  else if idSuffix.isSuffixOf key.1 = false then .error (.unknownNames enum)
  else .ok ⟨subsys.names ++ [(key.2, stem key.1)], subsys.availableMask ||| 1 <<< key.2⟩

/-- `init_subsys_ids`, with the class as it is left. -/
def Subsys.initSubsysIds (enum : PyString) : List (PyString × Nat) -> Subsys -> Subsys × Ending CgroupError
  | [], subsys => (subsys, .completed)
  | key :: keys, subsys =>
      match subsys.add enum key with
      | .error error => (subsys, .raised error)
      | .ok subsys => initSubsysIds enum keys subsys

/-- `subsys_mask_to_names`. -/
def Subsys.subsysMaskToNames (subsys : Subsys) (mask : Nat) : Except CgroupError (List PyString) :=
  let unknown := Nat.ldiff mask subsys.availableMask
  if unknown ≠ 0 then .error (.unknownControllers unknown)
  else .ok ((subsys.names.filter fun entry => mask &&& 1 <<< entry.1 != 0).map Prod.snd)

/-- The keys that stand for controllers. -/
def controllers (keys : List (PyString × Nat)) : List (PyString × Nat) :=
  keys.filter fun key => key.1 ≠ subsysCount

/-- The class with the names of some keys. -/
def Subsys.ofKeys (keys : List (PyString × Nat)) : Subsys where
  names := keys.map fun key => (key.2, stem key.1)
  availableMask := maskOf (keys.map Prod.snd)

/-- An enumeration whose controllers have different numbers and the usual names. -/
structure ValidKeys (keys : List (PyString × Nat)) : Prop where
  distinct : ((controllers keys).map Prod.snd).Nodup
  named : forall key, key ∈ controllers keys -> idSuffix.isSuffixOf key.1 = true

section Controllers

variable {enum : PyString} {keys done : List (PyString × Nat)} {key : PyString × Nat}

theorem Subsys.add_count (subsys : Subsys) (count : key.1 = subsysCount) :
    subsys.add enum key = .ok subsys :=
  if_pos count

/-- What the loop body does with a controller. -/
theorem Subsys.add_ofKeys (controller : key.1 ≠ subsysCount) :
    (Subsys.ofKeys done).add enum key =
      if key.2 ∈ done.map Prod.snd then .error (.notUnique enum)
      else if idSuffix.isSuffixOf key.1 = false then .error (.unknownNames enum)
      else .ok (Subsys.ofKeys (done ++ [key])) := by
  have ids : (Subsys.ofKeys done).names.map Prod.fst = done.map Prod.snd := by
    rw [Subsys.ofKeys, List.map_map]
    rfl
  have extended : (⟨(Subsys.ofKeys done).names ++ [(key.2, stem key.1)],
      (Subsys.ofKeys done).availableMask ||| 1 <<< key.2⟩ : Subsys) = Subsys.ofKeys (done ++ [key]) := by
    simp only [Subsys.ofKeys, List.map_append, List.map_singleton, maskOf_concat]
  rw [Subsys.add, if_neg controller, ids, extended]

/-- The loop goes through exactly if the numbers stay different and the names are as expected. -/
theorem Subsys.initSubsysIds_ofKeys (once : (done.map Prod.snd).Nodup) :
    ((initSubsysIds enum keys (Subsys.ofKeys done)).2 = .completed <->
      ((done ++ controllers keys).map Prod.snd).Nodup ∧
        forall key, key ∈ controllers keys -> idSuffix.isSuffixOf key.1 = true) ∧
      ((initSubsysIds enum keys (Subsys.ofKeys done)).2 = .completed ->
        (initSubsysIds enum keys (Subsys.ofKeys done)).1 = Subsys.ofKeys (done ++ controllers keys)) := by
  induction keys generalizing done with
  | nil =>
      rw [controllers, List.filter_nil, List.append_nil]
      exact ⟨⟨fun _ => ⟨once, fun key member => False.elim (List.not_mem_nil member)⟩, fun _ => rfl⟩,
        fun _ => rfl⟩
  | cons key keys inductionHypothesis =>
      by_cases count : key.1 = subsysCount
      · have skipped : controllers (key :: keys) = controllers keys :=
          List.filter_cons_of_neg (by rw [decide_eq_true_eq]; exact not_not.mpr count)
        rw [skipped, initSubsysIds, Subsys.add_count _ count]
        exact inductionHypothesis once
      · have kept : controllers (key :: keys) = key :: controllers keys :=
          List.filter_cons_of_pos (decide_eq_true count)
        have shifted : done ++ key :: controllers keys = (done ++ [key]) ++ controllers keys := by
          rw [List.append_assoc, List.singleton_append]
        rw [kept, initSubsysIds, Subsys.add_ofKeys count]
        by_cases again : key.2 ∈ done.map Prod.snd
        · rw [if_pos again]
          refine ⟨⟨fun impossible => (by cases impossible), fun parts => False.elim ?_⟩,
            fun impossible => (by cases impossible)⟩
          have disjoint := List.disjoint_of_nodup_append (List.map_append ▸ parts.1)
          exact disjoint again (List.mem_map_of_mem List.mem_cons_self)
        · rw [if_neg again]
          cases ends : idSuffix.isSuffixOf key.1 with
          | false =>
              refine ⟨⟨fun impossible => (by cases impossible), fun parts => False.elim ?_⟩,
                fun impossible => (by cases impossible)⟩
              have named := parts.2 key List.mem_cons_self
              rw [ends] at named
              cases named
          | true =>
              have longer : ((done ++ [key]).map Prod.snd).Nodup := by
                rw [List.map_append, List.map_singleton, ← List.concat_eq_append]
                exact once.concat again
              have further := inductionHypothesis longer
              rw [← shifted] at further
              refine ⟨further.1.trans (and_congr Iff.rfl ⟨fun named => ?_, fun named => ?_⟩), further.2⟩
              · exact List.forall_mem_cons.mpr ⟨ends, named⟩
              · exact (List.forall_mem_cons.mp named).2

/-- The class is initialised exactly from a valid enumeration. -/
theorem Subsys.initSubsysIds_unset :
    ((initSubsysIds enum keys unset).2 = .completed <-> ValidKeys keys) ∧
      ((initSubsysIds enum keys unset).2 = .completed ->
        (initSubsysIds enum keys unset).1 = Subsys.ofKeys (controllers keys)) := by
  have whole := @Subsys.initSubsysIds_ofKeys enum keys [] List.nodup_nil
  rw [List.nil_append] at whole
  exact ⟨whole.1.trans ⟨fun parts => ⟨parts.1, parts.2⟩, fun valid => ⟨valid.distinct, valid.named⟩⟩,
    whole.2⟩

/-- The names of a mask whose bits are all known. -/
theorem Subsys.subsysMaskToNames_ofKeys (mask : Nat) :
    (Subsys.ofKeys done).subsysMaskToNames mask =
      if Nat.ldiff mask (maskOf (done.map Prod.snd)) = 0 then
        .ok ((done.filter fun key => mask.testBit key.2).map fun key => stem key.1)
      else .error (.unknownControllers (Nat.ldiff mask (maskOf (done.map Prod.snd)))) := by
  have shown : (((Subsys.ofKeys done).names.filter fun entry => mask &&& 1 <<< entry.1 != 0).map Prod.snd) =
      (done.filter fun key => mask.testBit key.2).map fun key => stem key.1 := by
    rw [Subsys.ofKeys, List.filter_map, List.map_map]
    have same : ((fun entry : Nat × PyString => mask &&& 1 <<< entry.1 != 0) ∘
        fun key : PyString × Nat => (key.2, stem key.1)) = fun key => mask.testBit key.2 := by
      funext key
      exact and_bit_ne_zero mask key.2
    rw [same]
    rfl
  rw [subsysMaskToNames, shown]
  exact ite_not _ _ _

/-- The suffix completes a name to its key. -/
theorem stem_append (named : idSuffix.isSuffixOf key.1 = true) : stem key.1 ++ idSuffix = key.1 := by
  rcases List.isSuffixOf_iff_suffix.mp named with ⟨front, shape⟩
  rw [stem, ← shape, List.length_append, Nat.add_sub_cancel, List.take_left]

/-- The controllers of an enumeration are told apart by their names. -/
theorem ValidKeys.stem_inj (valid : ValidKeys keys) (unique : (keys.map Prod.fst).Nodup)
    {other : PyString × Nat} (member : key ∈ controllers keys) (memberToo : other ∈ controllers keys)
    (same : stem key.1 = stem other.1) : key = other := by
  have names : key.1 = other.1 := by
    rw [← stem_append (valid.named key member), same, stem_append (valid.named other memberToo)]
  exact List.inj_on_of_nodup_map unique (List.mem_of_mem_filter member)
    (List.mem_of_mem_filter memberToo) names

/-- The class can be initialised from an enumeration exactly if its controllers have different
numbers and the usual names.  Then a mask is accepted exactly if each of its bits is the number of
a controller, its names are those of the controllers, and the mask can be recovered from them. -/
theorem Subsys.subsysMaskToNames_recovers (enum : PyString) (keys : List (PyString × Nat))
    (unique : (keys.map Prod.fst).Nodup) :
    ((initSubsysIds enum keys unset).2 = .completed <-> ValidKeys keys) ∧
      (ValidKeys keys -> forall mask : Nat,
        ((Exists fun names : List PyString =>
          (initSubsysIds enum keys unset).1.subsysMaskToNames mask = .ok names) <->
            forall bit, mask.testBit bit = true -> bit ∈ (controllers keys).map Prod.snd) ∧
          forall names, (initSubsysIds enum keys unset).1.subsysMaskToNames mask = .ok names ->
            names = ((controllers keys).filter fun key => mask.testBit key.2).map (fun key => stem key.1) ∧
              mask = maskOf (((controllers keys).filter fun key => stem key.1 ∈ names).map Prod.snd)) := by
  refine ⟨initSubsysIds_unset.1, fun valid mask => ?_⟩
  rw [initSubsysIds_unset.2 (initSubsysIds_unset.1.mpr valid), subsysMaskToNames_ofKeys, ← ldiff_maskOf]
  by_cases known : Nat.ldiff mask (maskOf ((controllers keys).map Prod.snd)) = 0
  · rw [if_pos known]
    refine ⟨⟨fun _ => known, fun _ => ⟨_, rfl⟩⟩, ?_⟩
    intro names shown
    cases shown
    refine ⟨rfl, Nat.eq_of_testBit_eq fun bit => Bool.eq_iff_iff.mpr ?_⟩
    rw [testBit_maskOf, List.mem_map]
    constructor
    · intro set
      rcases List.mem_map.mp (ldiff_maskOf.mp known bit set) with ⟨key, member, rfl⟩
      refine ⟨key, List.mem_filter.mpr ⟨member, decide_eq_true ?_⟩, rfl⟩
      exact List.mem_map.mpr ⟨key, List.mem_filter.mpr ⟨member, set⟩, rfl⟩
    · rintro ⟨key, chosen, rfl⟩
      rcases List.mem_filter.mp chosen with ⟨member, named⟩
      rcases List.mem_map.mp (of_decide_eq_true named) with ⟨other, listed, same⟩
      rcases List.mem_filter.mp listed with ⟨memberToo, set⟩
      rw [← valid.stem_inj unique memberToo member same]
      exact set
  · rw [if_neg known]
    refine ⟨⟨?_, fun inside => False.elim (known inside)⟩, fun names impossible => (by cases impossible)⟩
    rintro ⟨names, impossible⟩
    cases impossible

end Controllers

/-- Two controllers and the number of them. -/
def smallKeys : List (PyString × Nat) :=
  [("cpuset_cgrp_id".toList, 0), ("cpu_cgrp_id".toList, 1), ("CGROUP_SUBSYS_COUNT".toList, 2)]

theorem smallKeys_valid : ValidKeys smallKeys where
  distinct := by decide
  named := by decide

theorem subsysMaskToNames_recovers_small : Exists fun names : List PyString =>
    (Subsys.initSubsysIds "cgroup_subsys_id".toList smallKeys .unset).1.subsysMaskToNames (2 ^ 1) =
      .ok names := by
  have accepted := ((Subsys.subsysMaskToNames_recovers "cgroup_subsys_id".toList smallKeys (by decide)).2
    smallKeys_valid (2 ^ 1)).1
  refine accepted.mpr fun bit set => ?_
  rw [Nat.testBit_two_pow, decide_eq_true_eq] at set
  rw [← set]
  decide

/-! ## Tasks and control groups -/

/-- The structures of a target that connect tasks with control groups. -/
structure CgroupMemory where
  lists : ListMemory
  cgroups : MemoryImage Nat
  cgrp : MemoryImage Nat
  cset : MemoryImage Nat
  root : MemoryImage Nat
  cgrpLinksOffset : Nat
  cgrpLinkOffset : Nat
  csetLinksOffset : Nat
  csetLinkOffset : Nat
  tasksOffset : Nat
  cgListOffset : Nat

namespace CgroupMemory

variable (memory : CgroupMemory)

/-- A field access. -/
def field (image : MemoryImage Nat) (address : Nat) : Except CgroupError Nat :=
  match image.read address with
  | none => .error (.unreadable address)
  | some value => .ok value

/-- The links of a `css_set`. -/
def cgrpLinks (cssset : Nat) : Run Nat ListError :=
  listEntries memory.lists {} memory.cgrpLinkOffset (memberOf memory.cgrpLinksOffset cssset)

/-- The links of a control group. -/
def csetLinks (cgrp : Nat) : Run Nat ListError :=
  listEntries memory.lists {} memory.csetLinkOffset (memberOf memory.csetLinksOffset cgrp)

/-- The tasks of a `css_set`. -/
def csetTasks (cssset : Nat) : Run Nat ListError :=
  listEntries memory.lists {} memory.cgListOffset (memberOf memory.tasksOffset cssset)

/-- The comparison in `cgroup_from_root`, with the control group that is returned. -/
def underRoot (cgroupRoot link : Nat) : Except CgroupError (Option Nat) := do
  let cgrp ← field memory.cgrp link
  let root ← field memory.root cgrp
  return if root = cgroupRoot then some cgrp else none

/-- `cgroup_from_root`. -/
def cgroupFromRoot (task cgroupRoot : Nat) : Except CgroupError Nat := do
  let cssset ← field memory.cgroups task
  match ← (memory.cgrpLinks cssset).firstOf .list (memory.underRoot cgroupRoot) with
  | some cgrp => .ok cgrp
  | none => .error .notUnderRoot

/-- The body of the outer loop of `for_each_cgroup_task`. -/
def linkTasks (link : Nat) : Run Nat CgroupError :=
  match memory.cset.read link with
  | none => ⟨[], .raised (.unreadable link)⟩
  | some cssset => ⟨(memory.csetTasks cssset).events, (memory.csetTasks cssset).ending.map .list⟩

/-- `for_each_cgroup_task`. -/
def forEachCgroupTask (cgrp : Nat) : Run Nat CgroupError :=
  (memory.csetLinks cgrp).forEach .list memory.linkTasks

/-- Control groups, `css_set`s and tasks as the kernel keeps them.  The two lists of links and
the pointers of the links say the same, and a `css_set` has one control group of a hierarchy. -/
structure Organised (isCgroup isCset isTask : Nat -> Prop) (cgrpLinks csetLinks tasks : Nat -> List Nat) :
    Prop where
  cgrpLinked : forall cset, isCset cset -> SoundList memory.lists memory.cgrpLinkOffset
    (memberOf memory.cgrpLinksOffset cset) (cgrpLinks cset)
  csetLinked : forall cgrp, isCgroup cgrp -> SoundList memory.lists memory.csetLinkOffset
    (memberOf memory.csetLinksOffset cgrp) (csetLinks cgrp)
  listed : forall cset, isCset cset -> SoundList memory.lists memory.cgListOffset
    (memberOf memory.tasksOffset cset) (tasks cset)
  ofCset : forall cset link, isCset cset -> link ∈ cgrpLinks cset ->
    memory.cset.read link = some cset ∧ Exists fun cgrp : Nat =>
      isCgroup cgrp ∧ memory.cgrp.read link = some cgrp ∧ link ∈ csetLinks cgrp
  ofCgroup : forall cgrp link, isCgroup cgrp -> link ∈ csetLinks cgrp ->
    memory.cgrp.read link = some cgrp ∧ Exists fun cset : Nat =>
      isCset cset ∧ memory.cset.read link = some cset ∧ link ∈ cgrpLinks cset
  rooted : forall cgrp, isCgroup cgrp -> Exists fun root : Nat => memory.root.read cgrp = some root
  oneEach : forall cset one two cgrp other root, isCset cset -> one ∈ cgrpLinks cset ->
    two ∈ cgrpLinks cset -> memory.cgrp.read one = some cgrp -> memory.cgrp.read two = some other ->
      memory.root.read cgrp = some root -> memory.root.read other = some root -> one = two
  member : forall task, isTask task -> Exists fun cset : Nat =>
    isCset cset ∧ memory.cgroups.read task = some cset ∧ task ∈ tasks cset
  back : forall cset task, isCset cset -> task ∈ tasks cset ->
    isTask task ∧ memory.cgroups.read task = some cset

variable {memory} {isCgroup isCset isTask : Nat -> Prop} {cgrpLinks csetLinks tasks : Nat -> List Nat}
variable {task cgrp root : Nat}

theorem field_some {image : MemoryImage Nat} {address value : Nat} (found : image.read address = some value) :
    field image address = .ok value := by
  rw [field, found]

namespace Organised

variable (organised : memory.Organised isCgroup isCset isTask cgrpLinks csetLinks tasks)

/-- The `css_set` of a link of a control group. -/
def csetOf (memory : CgroupMemory) (link : Nat) : Nat :=
  (memory.cset.read link).getD 0

include organised

/-- The tasks of a control group are those of the `css_set`s it is linked with. -/
theorem forEachCgroupTask (isOne : isCgroup cgrp) : memory.forEachCgroupTask cgrp =
    ⟨(csetLinks cgrp).flatMap fun link => tasks (csetOf memory link), .completed⟩ := by
  have listed := (organised.csetLinked cgrp isOne).listEntries false
  rw [if_neg Bool.false_ne_true, List.nil_append] at listed
  rw [CgroupMemory.forEachCgroupTask, CgroupMemory.csetLinks, listed]
  apply Run.forEach_emits
  intro link member
  rcases organised.ofCgroup cgrp link isOne member with ⟨_, cset, isSet, found, _⟩
  have shown := (organised.listed cset isSet).listEntries false
  rw [if_neg Bool.false_ne_true, List.nil_append] at shown
  rw [linkTasks, found, csetOf, found]
  simp only [csetTasks, shown]
  rfl

/-- The tasks of a `css_set` belong to it, and they are different. -/
theorem nodup_tasks {cset : Nat} (isSet : isCset cset) : (tasks cset).Nodup :=
  (List.nodup_cons.mp ((organised.listed cset isSet).nodup (memberOf_lt _ _))).2

/-- Different links of a control group lead to different tasks. -/
theorem nodup_forEachCgroupTask (isOne : isCgroup cgrp) :
    ((csetLinks cgrp).flatMap fun link => tasks (csetOf memory link)).Nodup := by
  have links := (List.nodup_cons.mp ((organised.csetLinked cgrp isOne).nodup (memberOf_lt _ _))).2
  rw [List.nodup_flatMap]
  constructor
  · intro link member
    rcases organised.ofCgroup cgrp link isOne member with ⟨_, cset, isSet, found, _⟩
    rw [csetOf, found]
    exact organised.nodup_tasks isSet
  · refine links.imp_of_mem ?_
    intro one two oneMember twoMember different task first second
    rcases organised.ofCgroup cgrp one isOne oneMember with ⟨up, cset, isSet, found, linked⟩
    rcases organised.ofCgroup cgrp two isOne twoMember with ⟨upToo, csetToo, isSetToo, foundToo, linkedToo⟩
    simp only [csetOf, found, foundToo, Option.getD_some] at first second
    have same := (organised.back cset task isSet first).2.symm.trans (organised.back csetToo task isSetToo second).2
    cases same
    rcases organised.rooted cgrp isOne with ⟨root, stored⟩
    exact different (organised.oneEach cset one two cgrp cgrp root isSet linked linkedToo up upToo stored stored)

/-- The control group of a task under a root is that of the one link which leads there. -/
theorem cgroupFromRoot_eq_ok (isOne : isTask task) (hierarchy : memory.root.read cgrp = some root) :
    memory.cgroupFromRoot task root = .ok cgrp <-> Exists fun cset : Nat => Exists fun link : Nat =>
      isCset cset ∧ memory.cgroups.read task = some cset ∧ link ∈ cgrpLinks cset ∧
        memory.cgrp.read link = some cgrp := by
  rcases organised.member task isOne with ⟨cset, isSet, found, _⟩
  have listed := (organised.cgrpLinked cset isSet).listEntries false
  rw [if_neg Bool.false_ne_true, List.nil_append] at listed
  let answer : Nat -> Option Nat := fun link => (memory.cgrp.read link).bind fun other =>
    if memory.root.read other = some root then some other else none
  have answers : forall link, link ∈ cgrpLinks cset -> memory.underRoot root link = .ok (answer link) := by
    intro link member
    rcases (organised.ofCset cset link isSet member).2 with ⟨other, isOther, up, _⟩
    rcases organised.rooted other isOther with ⟨stored, read⟩
    simp only [underRoot, field_some up, answer, up]
    change (field memory.root other).bind _ = .ok (if memory.root.read other = some root then _ else _)
    rw [field_some read, read]
    by_cases same : stored = root
    · rw [same, if_pos rfl]
      exact congrArg Except.ok (if_pos rfl)
    · rw [if_neg fun equal => same (Option.some.inj equal)]
      exact congrArg Except.ok (if_neg same)
  have result : memory.cgroupFromRoot task root =
      match (cgrpLinks cset).findSome? answer with
      | some cgrp => .ok cgrp
      | none => .error .notUnderRoot := by
    rw [cgroupFromRoot, field_some found]
    change ((memory.cgrpLinks cset).firstOf .list (memory.underRoot root)).bind _ = _
    rw [CgroupMemory.cgrpLinks, listed, Run.firstOf_of_answers answers]
    rfl
  have leads : forall link, answer link = some cgrp <-> memory.cgrp.read link = some cgrp := by
    intro link
    simp only [answer, Option.bind_eq_some_iff, Option.ite_none_right_eq_some, Option.some.injEq]
    constructor
    · rintro ⟨other, up, _, rfl⟩
      exact up
    · intro up
      exact ⟨cgrp, up, hierarchy, rfl⟩
  rw [result]
  constructor
  · intro returned
    cases first : (cgrpLinks cset).findSome? answer with
    | none =>
        rw [first] at returned
        cases returned
    | some other =>
        rw [first] at returned
        cases returned
        rcases List.exists_of_findSome?_eq_some first with ⟨link, member, leading⟩
        exact ⟨cset, link, isSet, found, member, (leads link).mp leading⟩
  · rintro ⟨other, link, _, foundToo, member, up⟩
    cases found.symm.trans foundToo
    cases first : (cgrpLinks cset).findSome? answer with
    | none =>
        have nothing := List.findSome?_eq_none_iff.mp first link member
        rw [(leads link).mpr up] at nothing
        cases nothing
    | some cgrpToo =>
        rcases List.exists_of_findSome?_eq_some first with ⟨linkToo, memberToo, leading⟩
        rcases Option.bind_eq_some_iff.mp leading with ⟨above, upToo, checked⟩
        rcases Option.ite_none_right_eq_some.mp checked with ⟨stored, same⟩
        cases same
        cases organised.oneEach cset link linkToo cgrp cgrpToo root isSet member memberToo up upToo
          hierarchy stored
        cases up.symm.trans upToo
        rfl

end Organised

/-- `for_each_cgroup_task` and `cgroup_from_root` agree: the tasks of a control group are listed
once each, and they are the tasks that are found to be in it from the other side. -/
theorem cgroupFromRoot_iff (memory : CgroupMemory) (isCgroup isCset isTask : Nat -> Prop)
    (cgrpLinks csetLinks tasks : Nat -> List Nat)
    (organised : memory.Organised isCgroup isCset isTask cgrpLinks csetLinks tasks) (cgrp root : Nat)
    (isOne : isCgroup cgrp) (hierarchy : memory.root.read cgrp = some root) :
    (memory.forEachCgroupTask cgrp).ending = .completed ∧
      (memory.forEachCgroupTask cgrp).events.Nodup ∧
        forall task, isTask task ->
          (task ∈ (memory.forEachCgroupTask cgrp).events <-> memory.cgroupFromRoot task root = .ok cgrp) := by
  rw [organised.forEachCgroupTask isOne]
  refine ⟨rfl, organised.nodup_forEachCgroupTask isOne, fun task isSome => ?_⟩
  rw [organised.cgroupFromRoot_eq_ok isSome hierarchy, List.mem_flatMap]
  constructor
  · rintro ⟨link, member, listed⟩
    rcases organised.ofCgroup cgrp link isOne member with ⟨up, cset, isSet, found, linked⟩
    rw [Organised.csetOf, found] at listed
    exact ⟨cset, link, isSet, (organised.back cset task isSet listed).2, linked, up⟩
  · rintro ⟨cset, link, isSet, inside, linked, up⟩
    rcases organised.ofCset cset link isSet linked with ⟨found, other, _, upToo, member⟩
    cases up.symm.trans upToo
    rcases organised.member task isSome with ⟨own, _, insideToo, listed⟩
    cases inside.symm.trans insideToo
    refine ⟨link, member, ?_⟩
    rw [Organised.csetOf, found]
    exact listed

end CgroupMemory

/-- One task in one control group. -/
def smallCgroups : CgroupMemory where
  lists := .ofTable [(1008, ⟨3008, 3008⟩), (3008, ⟨1008, 1008⟩), (2008, ⟨3024, 3024⟩), (3024, ⟨2008, 2008⟩),
    (2024, ⟨4008, 4008⟩), (4008, ⟨2024, 2024⟩)] (by decide)
  cgroups := .ofTable [(4000, 2000)]
  cgrp := .ofTable [(3000, 1000)]
  cset := .ofTable [(3000, 2000)]
  root := .ofTable [(1000, 64)]
  cgrpLinksOffset := 8
  cgrpLinkOffset := 24
  csetLinksOffset := 8
  csetLinkOffset := 8
  tasksOffset := 24
  cgListOffset := 8

theorem smallCgroups_organised : smallCgroups.Organised (fun cgrp => cgrp = 1000) (fun cset => cset = 2000)
    (fun task => task = 4000) (fun _ => [3000]) (fun _ => [3000]) (fun _ => [4000]) where
  cgrpLinked := by
    rintro cset rfl
    exact .of_links [3024] (by decide) (by decide) (by decide) rfl
  csetLinked := by
    rintro cgrp rfl
    exact .of_links [3008] (by decide) (by decide) (by decide) rfl
  listed := by
    rintro cset rfl
    exact .of_links [4008] (by decide) (by decide) (by decide) rfl
  ofCset := by
    rintro cset link rfl member
    rw [List.mem_singleton.mp member]
    exact ⟨rfl, 1000, rfl, rfl, List.mem_singleton_self _⟩
  ofCgroup := by
    rintro cgrp link rfl member
    rw [List.mem_singleton.mp member]
    exact ⟨rfl, 2000, rfl, rfl, List.mem_singleton_self _⟩
  rooted := by
    rintro cgrp rfl
    exact ⟨64, rfl⟩
  oneEach := by
    intro cset one two cgrp other root _ oneMember twoMember _ _ _ _
    rw [List.mem_singleton.mp oneMember, List.mem_singleton.mp twoMember]
  member := by
    rintro task rfl
    exact ⟨2000, rfl, rfl, List.mem_singleton_self _⟩
  back := by
    rintro cset task rfl member
    rw [List.mem_singleton.mp member]
    exact ⟨rfl, rfl⟩

theorem cgroupFromRoot_iff_small : (4000 ∈ (smallCgroups.forEachCgroupTask 1000).events <->
    smallCgroups.cgroupFromRoot 4000 64 = .ok 1000) :=
  (CgroupMemory.cgroupFromRoot_iff smallCgroups (fun cgrp => cgrp = 1000) (fun cset => cset = 2000)
    (fun task => task = 4000) (fun _ => [3000]) (fun _ => [3000]) (fun _ => [4000]) smallCgroups_organised
    1000 64 rfl rfl).2.2 4000 rfl

end Subsystem
end CrashPython

import CrashPython.Types.ListEntries

namespace CrashPython
namespace Types

open Library

/-!
# The task lists of `crash/types/task.py`

The thread group leaders are on a list that begins with the `init_task`, and each of them has a
list of the other threads of its group.  The tasks of a target are the leaders, each followed
by its threads.

All these lists have to be sound.  Each task is then yielded once, unless a leader is on the
list of another one: the two groups are one ring in that case, and it is gone around twice.
-/

/-- The lists of a target, and the `init_task`.  The two offsets are those of `tasks` and of
`thread_group` in a task. -/
structure TaskMemory where
  lists : ListMemory
  initTask : Nat
  word : initTask < 2 ^ 64
  tasksOffset : Nat
  threadGroupOffset : Nat

namespace TaskMemory

variable (memory : TaskMemory)

/-- `for_each_thread_group_leader`. -/
def forEachThreadGroupLeader : Run Nat ListError :=
  listEntries memory.lists { includeHead := true } memory.tasksOffset
    (memberOf memory.tasksOffset memory.initTask)

/-- `for_each_thread_in_group`. -/
def forEachThreadInGroup (task : Nat) : Run Nat ListError :=
  listEntries memory.lists {} memory.threadGroupOffset (memberOf memory.threadGroupOffset task)

/-- `for_each_all_tasks`. -/
def forEachAllTasks : Run Nat ListError :=
  memory.forEachThreadGroupLeader.forEach id fun leader =>
    (memory.forEachThreadInGroup leader).after [leader]

/-- The leaders and the threads of their groups are on sound lists. -/
structure Grouped (leaders : List Nat) (threads : Nat -> List Nat) : Prop where
  leading : SoundList memory.lists memory.tasksOffset (memberOf memory.tasksOffset memory.initTask) leaders
  groups : forall leader, leader ∈ memory.initTask :: leaders ->
    SoundList memory.lists memory.threadGroupOffset (memberOf memory.threadGroupOffset leader) (threads leader)

variable {memory} {leaders : List Nat} {threads : Nat -> List Nat}

theorem Grouped.yieldsLeaders (grouped : memory.Grouped leaders threads) :
    memory.forEachThreadGroupLeader = ⟨memory.initTask :: leaders, .completed⟩ := by
  have listed := grouped.leading.listEntries true
  rw [entryOf_memberOf memory.word] at listed
  exact listed

theorem Grouped.yieldsThreads (grouped : memory.Grouped leaders threads) {leader : Nat}
    (member : leader ∈ memory.initTask :: leaders) :
    memory.forEachThreadInGroup leader = ⟨threads leader, .completed⟩ :=
  (grouped.groups leader member).listEntries false

/-- Sound lists are gone through to their ends. -/
theorem Grouped.yields (grouped : memory.Grouped leaders threads) :
    memory.forEachAllTasks =
      ⟨(memory.initTask :: leaders).flatMap fun leader => leader :: threads leader, .completed⟩ := by
  rw [forEachAllTasks, grouped.yieldsLeaders]
  apply Run.forEach_emits
  intro leader member
  rw [grouped.yieldsThreads member]
  rfl

namespace Grouped

theorem word (grouped : memory.Grouped leaders threads) {leader : Nat}
    (member : leader ∈ memory.initTask :: leaders) : leader < 2 ^ 64 := by
  rcases List.mem_cons.mp member with rfl | later
  · exact memory.word
  · exact grouped.leading.words later

/-- The leaders are different tasks. -/
theorem nodup_leaders (grouped : memory.Grouped leaders threads) : (memory.initTask :: leaders).Nodup := by
  have distinct := grouped.leading.nodup (memberOf_lt _ _)
  rwa [entryOf_memberOf memory.word] at distinct

/-- The tasks of a group are different. -/
theorem nodup_group (grouped : memory.Grouped leaders threads) {leader : Nat}
    (member : leader ∈ memory.initTask :: leaders) : (leader :: threads leader).Nodup := by
  have distinct := (grouped.groups leader member).nodup (memberOf_lt _ _)
  rwa [entryOf_memberOf (grouped.word member)] at distinct

/-- Groups that share a task are one ring. -/
theorem isRotated (grouped : memory.Grouped leaders threads) {one two task : Nat}
    (oneMember : one ∈ memory.initTask :: leaders) (twoMember : two ∈ memory.initTask :: leaders)
    (first : task ∈ one :: threads one) (second : task ∈ two :: threads two) :
    (one :: threads one).IsRotated (two :: threads two) := by
  have turned := (grouped.groups one oneMember).isRotated (grouped.groups two twoMember)
    (memberOf_lt _ _) (memberOf_lt _ _) task
  rw [entryOf_memberOf (grouped.word oneMember), entryOf_memberOf (grouped.word twoMember)] at turned
  exact turned first second

theorem leader_mem (grouped : memory.Grouped leaders threads) {one two task : Nat}
    (oneMember : one ∈ memory.initTask :: leaders) (twoMember : two ∈ memory.initTask :: leaders)
    (first : task ∈ one :: threads one) (second : task ∈ two :: threads two) :
    two ∈ one :: threads one :=
  (grouped.isRotated oneMember twoMember first second).mem_iff.mpr List.mem_cons_self

/-- A task of a ring is in the group of another leader just if that leader is on the ring, and
then once. -/
theorem count_group (grouped : memory.Grouped leaders threads) {one two task : Nat}
    (oneMember : one ∈ memory.initTask :: leaders) (twoMember : two ∈ memory.initTask :: leaders)
    (first : task ∈ one :: threads one) :
    (two :: threads two).count task = if two ∈ one :: threads one then 1 else 0 := by
  by_cases onRing : two ∈ one :: threads one
  · have turned := grouped.isRotated oneMember twoMember onRing List.mem_cons_self
    rw [if_pos onRing]
    exact List.count_eq_one_of_mem (grouped.nodup_group twoMember) (turned.mem_iff.mp first)
  · rw [if_neg onRing]
    exact List.count_eq_zero_of_not_mem fun second =>
      onRing (grouped.leader_mem oneMember twoMember first second)

/-- How often the tasks of a ring are yielded. -/
theorem count_events (grouped : memory.Grouped leaders threads) {one task : Nat}
    (oneMember : one ∈ memory.initTask :: leaders) (first : task ∈ one :: threads one) :
    memory.forEachAllTasks.events.count task =
      (memory.initTask :: leaders).countP fun leader => leader ∈ one :: threads one := by
  rw [congrArg Run.events grouped.yields]
  change ((memory.initTask :: leaders).flatMap fun leader => leader :: threads leader).count task = _
  have each : forall two, two ∈ memory.initTask :: leaders ->
      (two :: threads two).count task = if two ∈ one :: threads one then 1 else 0 :=
    fun two twoMember => grouped.count_group oneMember twoMember first
  generalize memory.initTask :: leaders = all at each
  induction all with
  | nil => rfl
  | cons two rest inductionHypothesis =>
      have later := inductionHypothesis fun other member => each other (List.mem_cons_of_mem two member)
      rw [List.flatMap_cons, List.count_append, each two List.mem_cons_self, later, List.countP_cons,
        Nat.add_comm]
      simp only [decide_eq_true_eq]

end Grouped

/-- Each task is yielded once exactly if no leader is on the list of another leader's group.
Groups that share a task are one ring, entered at the two leaders, and a ring is gone around once
for each leader on it. -/
theorem forEachAllTasks_nodup_iff (memory : TaskMemory) (leaders : List Nat) (threads : Nat -> List Nat)
    (grouped : memory.Grouped leaders threads) :
    (memory.forEachAllTasks.events.Nodup <->
        forall one, one ∈ memory.initTask :: leaders -> forall two, two ∈ memory.initTask :: leaders ->
          two ∉ threads one) ∧
      forall one, one ∈ memory.initTask :: leaders -> forall task, task ∈ one :: threads one ->
        (forall two, two ∈ memory.initTask :: leaders -> task ∈ two :: threads two ->
          (one :: threads one).IsRotated (two :: threads two)) ∧
        memory.forEachAllTasks.events.count task =
          (memory.initTask :: leaders).countP fun leader => leader ∈ one :: threads one := by
  refine ⟨?_, fun one oneMember task first => ⟨fun two twoMember second =>
    grouped.isRotated oneMember twoMember first second, grouped.count_events oneMember first⟩⟩
  rw [congrArg Run.events grouped.yields]
  change ((memory.initTask :: leaders).flatMap fun leader => leader :: threads leader).Nodup <-> _
  rw [List.nodup_flatMap]
  constructor
  · rintro ⟨_, apart⟩ one oneMember two twoMember listed
    by_cases same : one = two
    · subst same
      exact (List.nodup_cons.mp (grouped.nodup_group oneMember)).1 listed
    · have symmetric : Std.Symm (Function.onFun List.Disjoint
          fun leader : Nat => leader :: threads leader) := ⟨fun _ _ disjoint => disjoint.symm⟩
      exact apart.forall oneMember twoMember same (List.mem_cons_of_mem one listed)
        List.mem_cons_self
  · intro separate
    refine ⟨fun leader member => grouped.nodup_group member, ?_⟩
    refine grouped.nodup_leaders.imp_of_mem ?_
    intro one two oneMember twoMember different task first second
    rcases List.mem_cons.mp (grouped.leader_mem oneMember twoMember first second) with same | listed
    · exact different same.symm
    · exact separate one oneMember two twoMember listed

end TaskMemory

/-- The `init_task` and a leader with one thread. -/
def smallTasks : TaskMemory where
  lists := .ofTable [(108, ⟨208, 208⟩), (208, ⟨108, 108⟩), (124, ⟨124, 124⟩), (224, ⟨324, 324⟩),
    (324, ⟨224, 224⟩)] (by decide)
  initTask := 100
  word := by decide
  tasksOffset := 8
  threadGroupOffset := 24

/-- The threads of the groups. -/
def smallThreads (leader : Nat) : List Nat :=
  if leader = 200 then [300] else []

theorem smallTasks_grouped : smallTasks.Grouped [200] smallThreads where
  leading := .of_links [208] (by decide) (by decide) (by decide) rfl
  groups := by
    intro leader member
    rcases List.mem_cons.mp member with rfl | later
    · exact .of_links [] (by decide) (by decide) (by decide) rfl
    · rw [List.mem_singleton.mp later]
      exact .of_links [324] (by decide) (by decide) (by decide) rfl

theorem forEachAllTasks_nodup_small : smallTasks.forEachAllTasks.events.Nodup :=
  (TaskMemory.forEachAllTasks_nodup_iff smallTasks [200] smallThreads smallTasks_grouped).1.mpr (by decide)

end Types
end CrashPython

import CrashPython.Library.ParentTree
import CrashPython.Library.PyString
import CrashPython.Library.Splitting
import CrashPython.Types.LinkedList
import CrashPython.Types.RbTree
import CrashPython.Util.Offsetof

namespace CrashPython
namespace Subsystem

open Library Types Util

/-!
# The nodes of `crash/subsystem/filesystem/kernfs.py`

A `kernfs_node` is on the way in two directions.  It names its parent, and the names along
the parents are its path.  A directory keeps its children in a red-black tree, from which
they are listed in post-order.

The names of a hierarchy are plain when none is empty or has a slash and no two children of
a node share one.  Then a path says which node it is of, and splitting it gives the names
back.
-/

/-- The fields of a `struct kernfs_node` that are read. -/
structure KernfsNode where
  flags : Nat
  mode : Nat
  name : PyString
  parent : Nat
deriving DecidableEq, Repr

/-- The constant `KERNFS_DIR`. -/
def kernfsDir : Nat := 1

/-- The constant `KERNFS_LINK`. -/
def kernfsLink : Nat := 4

/-- `kn['flags'] & KERNFS_DIR`. -/
def KernfsNode.isDir (cell : KernfsNode) : Bool :=
  cell.flags &&& kernfsDir != 0

/-- `kn['flags'] & KERNFS_LINK`. -/
def KernfsNode.isLink (cell : KernfsNode) : Bool :=
  cell.flags &&& kernfsLink != 0

/-- Everything that can leave a function on kernfs nodes.  A failed read is gdb's own
`MemoryError`. -/
inductive KernfsError where
  | notDirectory (kn : Nat)
  | tree (error : RbError)
  | unreadable (address : Nat)
deriving DecidableEq, Repr

/-- The message of the exception of this module. -/
def KernfsError.invalidArgumentText : KernfsError -> Option String
  | .notDirectory kn => some ("kernfs_node at " ++ hexAddress kn ++ " is not a directory")
  | _ => none

/-- The nodes of a target, and the red-black trees of its directories.  The two offsets are
those of `rb` and of `dir.children` in a node. -/
structure KernfsMemory where
  nodes : MemoryImage KernfsNode
  trees : RbMemory
  rbOffset : Nat
  childrenOffset : Nat

namespace KernfsMemory

variable (memory : KernfsMemory)

/-- A field access. -/
def node (kn : Nat) : Except KernfsError KernfsNode :=
  match memory.nodes.read kn with
  | none => .error (.unreadable kn)
  | some cell => .ok cell

/-- The node that an entry of a tree is embedded in, by `container_of`. -/
def entry (rb : Nat) : Nat :=
  pointerOf ((rb : Int) - memory.rbOffset)

/-- `for_each_child`. -/
def forEachChild (fuel kn : Nat) : Option (Run Nat KernfsError) :=
  match memory.node kn with
  | .error error => some ⟨[], .raised error⟩
  | .ok cell =>
      if cell.isDir then
        (rbtreePostorderForEach memory.trees fuel (.rbRoot (kn + memory.childrenOffset))).map
          fun run => ⟨run.events.map memory.entry, run.ending.map .tree⟩
      else some ⟨[], .raised (.notDirectory kn)⟩

/-- The loop of `path_from_node`. -/
def climb : Nat -> Nat -> List PyString -> Option (Except KernfsError (List PyString))
  | 0, _, _ => none
  | fuel + 1, kn, path =>
      match memory.node kn with
      | .error error => some (.error error)
      | .ok cell =>
          if cell.parent = 0 then some (.ok path)
          else climb fuel cell.parent (path ++ [cell.name])

/-- The path along some names from the top. -/
def pathText (names : List PyString) : PyString :=
  '/' :: ['/'].intercalate names

/-- `path_from_node`. -/
def pathFromNode (fuel kn : Nat) : Option (Except KernfsError PyString) :=
  (memory.climb fuel kn []).map (Except.map fun path => pathText path.reverse)

/-- A node of a hierarchy, with the names of the nodes from below the root down to it. -/
inductive Named (root : Nat) : Nat -> List PyString -> Prop where
  | root {cell : KernfsNode} (readable : memory.nodes.read root = some cell)
      (top : cell.parent = 0) : Named root root []
  | child {kn above : Nat} {names : List PyString} {cell : KernfsNode}
      (upper : Named root above names) (readable : memory.nodes.read kn = some cell)
      (named : cell.parent = above) (present : above ≠ 0) : Named root kn (names ++ [cell.name])

/-- The names of a hierarchy are usable as parts of a path. -/
structure PlainNames (root : Nat) : Prop where
  plain : forall kn names, memory.Named root kn names ->
    forall name, name ∈ names -> name ≠ [] ∧ '/' ∉ name
  siblings : forall {one two : Nat} {first second : List PyString} {left right : KernfsNode},
    memory.Named root one first -> memory.Named root two second ->
    memory.nodes.read one = some left -> memory.nodes.read two = some right ->
    left.parent = right.parent -> left.parent ≠ 0 -> left.name = right.name -> one = two

variable {memory} {root kn other : Nat} {names others : List PyString} {cell : KernfsNode}

theorem node_ok (readable : memory.nodes.read kn = some cell) : memory.node kn = .ok cell := by
  rw [node, readable]

theorem Named.readable (inside : memory.Named root kn names) :
    Exists fun cell : KernfsNode => memory.nodes.read kn = some cell := by
  cases inside with
  | root readable top => exact ⟨_, readable⟩
  | child upper readable named present => exact ⟨_, readable⟩

/-- The iterator over a tree with any number of nodes. -/
theorem postorderRoot_laidOut {trees : RbMemory} {anchor : Nat} {tree : BinaryTree RbLabel}
    (anchored : anchor ≠ 0) (rooted : trees.roots.read anchor = some (rootAddress tree))
    (stored : LaidOut trees 0 tree) (distinct : (postorder tree).Nodup) :
    Settles (fun fuel => postorderRoot trees fuel anchor) ⟨postorder tree, .completed⟩ := by
  cases tree with
  | nil =>
      apply Settles.now
      intro fuel
      simp only [postorderRoot, anchored, if_false, rooted, rootAddress, rbLeftDeepestNode, if_true]
      rfl
  | node label left right =>
      have walked := (walks_of_laidOut (.node label left right) (by simp) stored distinct
        ⟨0, fun fuel _ => rbNextPostorder_root stored fuel⟩).settles rfl
      rcases walked with ⟨bound, finishes⟩
      refine ⟨bound + (BinaryTree.node label left right).numNodes, fun fuel enough => ?_⟩
      have descent := rbLeftDeepestNode_of_laidOut _ (by simp) stored
        (Nat.le_trans (Nat.le_add_left _ _) enough)
      simp only [postorderRoot, anchored, if_false, rooted, descent]
      exact finishes fuel (Nat.le_trans (Nat.le_add_right _ _) enough)

/-- The children of a directory are the entries of a red-black tree, in this order. -/
structure StoresChildren (memory : KernfsMemory) (kn : Nat) (listed : List Nat) : Prop where
  anchored : kn + memory.childrenOffset ≠ 0
  stored : Exists fun tree : BinaryTree RbLabel =>
    LaidOut memory.trees 0 tree ∧
      memory.trees.roots.read (kn + memory.childrenOffset) = some (rootAddress tree) ∧
      postorder tree = listed.map fun child => child + memory.rbOffset
  once : listed.Nodup
  words : forall child, child ∈ listed -> child + memory.rbOffset < 2 ^ 64

theorem entry_add (small : kn + memory.rbOffset < 2 ^ 64) : memory.entry (kn + memory.rbOffset) = kn := by
  have wrapped : pointerOf ((kn : Int) + memory.rbOffset) = kn + memory.rbOffset := by
    simp only [pointerOf]
    omega
  have back := pointerOf_sub (Nat.lt_of_le_of_lt (Nat.le_add_right _ _) small) memory.rbOffset
  rw [wrapped] at back
  exact back

/-- `for_each_child` lists the children of a directory. -/
theorem StoresChildren.forEachChild {listed : List Nat} (children : StoresChildren memory kn listed)
    (readable : memory.nodes.read kn = some cell) (directory : cell.isDir = true) :
    Settles (fun fuel => memory.forEachChild fuel kn) ⟨listed, .completed⟩ := by
  rcases children.stored with ⟨tree, laidOut, rooted, shape⟩
  have distinct : (postorder tree).Nodup := by
    rw [shape]
    exact children.once.map fun one two same => Nat.add_right_cancel same
  have settled := (postorderRoot_laidOut children.anchored rooted laidOut distinct).map
    fun run : Run Nat RbError =>
    (⟨run.events.map memory.entry, run.ending.map .tree⟩ : Run Nat KernfsError)
  have entries : (postorder tree).map memory.entry = listed := by
    rw [shape, List.map_map]
    exact (List.map_congr_left fun child member => entry_add (children.words child member)).trans
      (List.map_id listed)
  rw [entries] at settled
  change Settles _ (⟨listed, .completed⟩ : Run Nat KernfsError) at settled
  simpa only [KernfsMemory.forEachChild, node_ok readable, directory, if_true,
    rbtreePostorderForEach] using settled

/-- The loop collects the names from the node upwards. -/
theorem Named.climb (inside : memory.Named root kn names) (path : List PyString) :
    Settles (fun fuel => memory.climb fuel kn path) (.ok (path ++ names.reverse)) := by
  induction inside generalizing path with
  | root readable top =>
      apply Settles.now
      intro fuel
      rw [KernfsMemory.climb, node_ok readable, List.reverse_nil, List.append_nil]
      exact if_pos top
  | @child kn above names cell upper readable named present inductionHypothesis =>
      have further := inductionHypothesis (path ++ [cell.name])
      rw [List.append_assoc, List.singleton_append] at further
      rw [List.reverse_append, List.reverse_singleton, List.singleton_append]
      apply further.later
      intro fuel
      rw [KernfsMemory.climb, node_ok readable]
      change (if cell.parent = 0 then _ else _) = _
      rw [named, if_neg present]

/-- `path_from_node` ends with the path along the names. -/
theorem Named.path (inside : memory.Named root kn names) :
    Settles (fun fuel => memory.pathFromNode fuel kn) (.ok (pathText names)) := by
  have settled := (inside.climb []).map (Except.map fun path => pathText path.reverse)
  rw [List.nil_append] at settled
  simpa only [pathFromNode, Except.map, List.reverse_reverse] using settled

/-- Plain names are told apart when they are joined. -/
theorem separable_names (plain : forall name, name ∈ names -> name ≠ [] ∧ '/' ∉ name) :
    Separable ['/'] names := by
  induction names with
  | nil => exact trivial
  | cons name rest inductionHypothesis =>
      have here := (plain name List.mem_cons_self).2
      have later := inductionHypothesis fun other member =>
        plain other (List.mem_cons_of_mem name member)
      cases rest with
      | nil =>
          intro occurs
          exact here (occurs.subset List.mem_cons_self)
      | cons next rest => exact ⟨clear_singleton.mpr here, later⟩

/-- A path that is split gives its names back, behind the empty text before the first slash. -/
theorem split_pathText (nonempty : names ≠ [])
    (plain : forall name, name ∈ names -> name ≠ [] ∧ '/' ∉ name) :
    split ['/'] (pathText names) = [] :: names := by
  rcases List.exists_cons_of_ne_nil nonempty with ⟨name, rest, rfl⟩
  have joined : pathText (name :: rest) = ['/'].intercalate ([] :: name :: rest) := by
    rw [List.intercalate_cons_cons]
    rfl
  rw [joined]
  exact (split_intercalate_iff (List.cons_ne_nil _ _) _ _).mpr
    ⟨fun position before => False.elim (Nat.not_lt_zero _ before), separable_names plain⟩

/-- Different plain names are joined to different paths. -/
theorem pathText_inj (plain : forall name, name ∈ names -> name ≠ [] ∧ '/' ∉ name)
    (plainOthers : forall name, name ∈ others -> name ≠ [] ∧ '/' ∉ name)
    (same : pathText names = pathText others) : names = others := by
  have short : forall {name : PyString} {rest : List PyString},
      name ≠ [] -> pathText (name :: rest) ≠ pathText [] := by
    intro name rest nonempty equal
    have empty := List.cons.inj equal |>.2
    cases rest with
    | nil => exact nonempty (by simpa using empty)
    | cons next rest =>
        rw [List.intercalate_cons_cons] at empty
        exact nonempty (by simpa using congrArg List.head? empty)
  cases names with
  | nil =>
      cases others with
      | nil => rfl
      | cons other rest =>
          exact False.elim (short (plainOthers other List.mem_cons_self).1 same.symm)
  | cons name rest =>
      cases others with
      | nil => exact False.elim (short (plain name List.mem_cons_self).1 same)
      | cons other later =>
          have parts := split_pathText (List.cons_ne_nil name rest) plain
          rw [same, split_pathText (List.cons_ne_nil other later) plainOthers] at parts
          exact (List.cons.inj parts).2.symm

/-- The last step of the way down to a node. -/
theorem Named.cases (inside : memory.Named root kn names) :
    (names = [] ∧ kn = root) ∨
      Exists fun above : Nat => Exists fun upper : List PyString => Exists fun cell : KernfsNode =>
        memory.Named root above upper ∧ memory.nodes.read kn = some cell ∧ cell.parent = above ∧
          above ≠ 0 ∧ names = upper ++ [cell.name] := by
  cases inside with
  | root readable top => exact Or.inl ⟨rfl, rfl⟩
  | @child _ above upper cell inner readable named present =>
      exact Or.inr ⟨above, upper, cell, inner, readable, named, present, rfl⟩

/-- In a hierarchy with plain names a node is found by its names. -/
theorem PlainNames.unique (usable : memory.PlainNames root) (one : memory.Named root kn names)
    (two : memory.Named root other names) : kn = other := by
  induction one generalizing other with
  | root readable top =>
      rcases two.cases with ⟨_, same⟩ | ⟨_, upper, cell, _, _, _, _, shape⟩
      · exact same.symm
      · exact False.elim (List.append_ne_nil_of_right_ne_nil upper (List.cons_ne_nil _ _) shape.symm)
  | @child kn above names cell upper readable named present inductionHypothesis =>
      have left : memory.Named root kn (names ++ [cell.name]) := .child upper readable named present
      rcases two.cases with ⟨empty, _⟩ | ⟨above', upper', cell', inner, found, above'Named, _, shape⟩
      · exact False.elim (List.append_ne_nil_of_right_ne_nil names (List.cons_ne_nil _ _) empty)
      · rcases List.append_inj' shape rfl with ⟨sameUpper, sameLast⟩
        rw [← sameUpper] at inner
        have sameParent : above = above' := inductionHypothesis inner
        refine usable.siblings left two readable found ?_ ?_ (List.cons.inj sameLast).1
        · rw [named, above'Named, sameParent]
        · rw [named]
          exact present

end KernfsMemory

/-- A root with a directory and a file, and a file in the directory. -/
def smallKernfs : KernfsMemory where
  nodes := .ofTable [(64, ⟨1, 0o755, [], 0⟩), (128, ⟨2, 0o644, ['b'], 64⟩), (256, ⟨1, 0o755, ['a'], 64⟩),
    (512, ⟨2, 0o644, ['c'], 256⟩)]
  trees := {
    roots := .ofTable [(80, 264), (272, 520)]
    nodes := .ofTable [(264, ⟨1, 136, 0⟩), (136, ⟨264, 0, 0⟩), (520, ⟨1, 0, 0⟩)] }
  rbOffset := 8
  childrenOffset := 16

theorem smallKernfs_cases {kn : Nat} {cell : KernfsNode} (readable : smallKernfs.nodes.read kn = some cell) :
    (kn = 64 ∧ cell.parent = 0) ∨ (kn = 128 ∧ cell.parent = 64 ∧ cell.name = ['b']) ∨
      (kn = 256 ∧ cell.parent = 64 ∧ cell.name = ['a']) ∨
      (kn = 512 ∧ cell.parent = 256 ∧ cell.name = ['c']) := by
  have member := MemoryImage.mem_of_ofTable readable
  simp only [List.mem_cons, List.not_mem_nil, or_false, Prod.mk.injEq] at member
  rcases member with ⟨rfl, rfl⟩ | ⟨rfl, rfl⟩ | ⟨rfl, rfl⟩ | ⟨rfl, rfl⟩ <;> decide

theorem smallKernfs_plain : smallKernfs.PlainNames 64 where
  plain := by
    intro kn names inside
    induction inside with
    | root => exact fun name member => False.elim (List.not_mem_nil member)
    | child upper readable named present inductionHypothesis =>
        intro name member
        rcases List.mem_append.mp member with earlier | last
        · exact inductionHypothesis name earlier
        · rw [List.mem_singleton.mp last]
          rcases smallKernfs_cases readable with
            ⟨_, root⟩ | ⟨_, _, name⟩ | ⟨_, _, name⟩ | ⟨_, _, name⟩
          · exact False.elim (present (named.symm.trans root))
          · rw [name]
            decide
          · rw [name]
            decide
          · rw [name]
            decide
  siblings := by
    intro one two first second left right _ _ readLeft readRight sameParent present sameName
    rcases smallKernfs_cases readLeft with
        ⟨_, root⟩ | ⟨at1, p1, n1⟩ | ⟨at1, p1, n1⟩ | ⟨at1, p1, n1⟩
    · exact False.elim (present root)
    all_goals
      rcases smallKernfs_cases readRight with
        ⟨_, root⟩ | ⟨at2, p2, n2⟩ | ⟨at2, p2, n2⟩ | ⟨at2, p2, n2⟩
      · exact False.elim (present (sameParent.trans root))
      all_goals
        rw [n1, n2] at sameName
        first
          | exact at1.trans at2.symm
          | exact absurd sameName (by decide)

end Subsystem
end CrashPython

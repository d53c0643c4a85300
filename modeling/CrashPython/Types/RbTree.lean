import CrashPython.Library.Generator
import CrashPython.Library.MemoryImage
import Mathlib.Data.Tree.Basic

namespace CrashPython
namespace Types

open Library

/-!
# The tree iterator of `crash/types/rbtree.py`

`rbtree_postorder_for_each` keeps no stack.  It starts at the leftmost deepest
node, and finds the successor of a node through its parent pointer: if the node
is a left child and there is a right sibling, the successor is the leftmost
deepest node of the sibling, and otherwise it is the parent.

A node is known by its address.  The parent pointer shares its word with the
colour of the node in the two lowest bits.
-/

/-- A `struct rb_node`. -/
structure RbNode where
  parentColor : Nat
  left : Nat
  right : Nat
deriving DecidableEq, Repr

/-- The tree roots and tree nodes of a target.  A `struct rb_root` is its one
field `rb_node`. -/
structure RbMemory where
  roots : MemoryImage Nat
  nodes : MemoryImage RbNode

/-- The argument of the iterator as its type checks see it. -/
inductive RbArgument where
  | notValue
  | otherType
  | rbRoot (address : Nat)
  | rbRootPointer (address : Nat)
deriving DecidableEq, Repr

/-- Every exception the iterator can raise.  A failed read is gdb's own
`MemoryError`, which is not caught. -/
inductive RbError where
  | argumentType
  | unexpectedType
  | rootNull
  | unreadable (address : Nat)
deriving DecidableEq, Repr

/-- The message of `CorruptTreeError`, the only one of this module. -/
def RbError.corruptTreeText : RbError -> Option String
  | .rootNull => some "root is NULL pointer"
  | _ => none

/-- A field access. -/
def readNode (memory : RbMemory) (node : Nat) : Except RbError RbNode :=
  match memory.nodes.read node with
  | none => .error (.unreadable node)
  | some cell => .ok cell

/-- `_rb_left_deepest_node`. -/
def rbLeftDeepestNode (memory : RbMemory) : Nat -> Nat -> Option (Except RbError (Option Nat))
  | 0, _ => none
  | fuel + 1, node =>
      if node = 0 then some (.ok none)
      else
        match readNode memory node with
        | .error error => some (.error error)
        | .ok cell =>
            if cell.left ≠ 0 then rbLeftDeepestNode memory fuel cell.left
            else if cell.right ≠ 0 then rbLeftDeepestNode memory fuel cell.right
            else some (.ok (some node))

/-- `addr &= ~0x3`. -/
def clearColour (word : Nat) : Nat :=
  word - word % 4

/-- `_rb_parent`. -/
def rbParent (memory : RbMemory) (node : Nat) : Except RbError (Option Nat) :=
  match readNode memory node with
  | .error error => .error error
  | .ok cell =>
      if clearColour cell.parentColor = 0 then .ok none
      else .ok (some (clearColour cell.parentColor))

/-- `_rb_next_postorder`. -/
def rbNextPostorder (memory : RbMemory) (fuel node : Nat) : Option (Except RbError (Option Nat)) :=
  if node = 0 then some (.ok none)
  else
    match rbParent memory node with
    | .error error => some (.error error)
    | .ok none => some (.ok none)
    | .ok (some parent) =>
        match readNode memory parent with
        | .error error => some (.error error)
        | .ok cell =>
            if node = cell.left ∧ cell.right ≠ 0 then rbLeftDeepestNode memory fuel cell.right
            else some (.ok (some parent))

/-- The loop of `rbtree_postorder_for_each`. -/
def postorderFrom (memory : RbMemory) : Nat -> Option Nat -> Option (Run Nat RbError)
  | 0, _ => none
  | _ + 1, none => some ⟨[], .completed⟩
  | fuel + 1, some node =>
      match rbNextPostorder memory fuel node with
      | none => none
      | some (.error error) => some ⟨[node], .raised error⟩
      | some (.ok next) => (postorderFrom memory fuel next).map (Run.after [node])

/-- `rbtree_postorder_for_each` on a root of the right type. -/
def postorderRoot (memory : RbMemory) (fuel root : Nat) : Option (Run Nat RbError) :=
  if root = 0 then some ⟨[], .raised .rootNull⟩
  else
    match memory.roots.read root with
    | none => some ⟨[], .raised (.unreadable root)⟩
    | some node =>
        match rbLeftDeepestNode memory fuel node with
        | none => none
        | some (.error error) => some ⟨[], .raised error⟩
        | some (.ok first) => postorderFrom memory fuel first

/-- `rbtree_postorder_for_each`. -/
def rbtreePostorderForEach (memory : RbMemory) (fuel : Nat) : RbArgument -> Option (Run Nat RbError)
  | .notValue => some ⟨[], .raised .argumentType⟩
  | .otherType => some ⟨[], .raised .unexpectedType⟩
  | .rbRoot address => postorderRoot memory fuel address
  | .rbRootPointer address => postorderRoot memory fuel address

/-! ## Trees laid out in memory -/

/-- A node of an abstract tree: where it is stored, and its colour bits. -/
structure RbLabel where
  address : Nat
  colour : Nat
deriving DecidableEq, Repr

/-- The post-order listing. -/
def postorder : BinaryTree RbLabel -> List Nat
  | .nil => []
  | .node label left right => postorder left ++ (postorder right ++ [label.address])

/-- The pointer to a subtree. -/
def rootAddress : BinaryTree RbLabel -> Nat
  | .nil => 0
  | .node label _ _ => label.address

/-- A tree is stored in memory below a parent. -/
def LaidOut (memory : RbMemory) : Nat -> BinaryTree RbLabel -> Prop
  | _, .nil => True
  | parent, .node label left right =>
      label.address ≠ 0 ∧ label.address % 4 = 0 ∧ label.colour < 4 ∧
        memory.nodes.read label.address =
          some ⟨parent ||| label.colour, rootAddress left, rootAddress right⟩ ∧
        LaidOut memory label.address left ∧ LaidOut memory label.address right

/-- The node where the traversal of a nonempty tree starts. -/
def firstVisited : BinaryTree RbLabel -> Nat
  | .nil => 0
  | .node _ (.node label left right) _ => firstVisited (.node label left right)
  | .node _ .nil (.node label left right) => firstVisited (.node label left right)
  | .node label .nil .nil => label.address

/-! ## Single steps of the iterator -/

section Steps

variable {memory : RbMemory} {parent : Nat}

theorem clearColour_or {colour : Nat} (aligned : parent % 4 = 0) (small : colour < 4) :
    clearColour (parent ||| colour) = parent := by
  have shape : 2 ^ 2 * (parent / 4) = parent := by omega
  have added : 2 ^ 2 * (parent / 4) + colour = parent ||| colour := by
    rw [Nat.two_pow_add_eq_or_of_lt small, shape]
  rw [clearColour]
  omega

theorem LaidOut.root_ne_zero {label : RbLabel} {left right : BinaryTree RbLabel}
    (stored : LaidOut memory parent (.node label left right)) : label.address ≠ 0 :=
  stored.1

theorem readNode_of_laidOut {label : RbLabel} {left right : BinaryTree RbLabel}
    (stored : LaidOut memory parent (.node label left right)) :
    readNode memory label.address =
      .ok ⟨parent ||| label.colour, rootAddress left, rootAddress right⟩ := by
  rw [readNode, stored.2.2.2.1]

/-- Descending from the root of a subtree ends where its traversal starts. -/
theorem rbLeftDeepestNode_of_laidOut (tree : BinaryTree RbLabel) (nonempty : tree ≠ .nil)
    (stored : LaidOut memory parent tree) {fuel : Nat} (enough : tree.numNodes ≤ fuel) :
    rbLeftDeepestNode memory fuel (rootAddress tree) = some (.ok (some (firstVisited tree))) := by
  induction tree generalizing parent fuel with
  | nil => exact False.elim (nonempty rfl)
  | node label left right leftHypothesis rightHypothesis =>
      rcases fuel with _ | fuel
      · exact False.elim (Nat.not_succ_le_zero _ enough)
      · have storedLeft := stored.2.2.2.2.1
        have storedRight := stored.2.2.2.2.2
        have enoughLeft : left.numNodes ≤ fuel := by
          rw [BinaryTree.numNodes] at enough
          omega
        have enoughRight : right.numNodes ≤ fuel := by
          rw [BinaryTree.numNodes] at enough
          omega
        rw [rootAddress, rbLeftDeepestNode, if_neg stored.root_ne_zero, readNode_of_laidOut stored]
        cases left with
        | node inner outerLeft outerRight =>
            simp only [rootAddress, ne_eq, storedLeft.root_ne_zero, not_false_eq_true, if_true]
            rw [firstVisited]
            exact leftHypothesis (by simp) storedLeft enoughLeft
        | nil =>
            cases right with
            | node inner outerLeft outerRight =>
                simp only [rootAddress, ne_eq, not_true_eq_false, if_false, storedRight.root_ne_zero,
                  not_false_eq_true, if_true]
                rw [firstVisited]
                exact rightHypothesis (by simp) storedRight enoughRight
            | nil =>
                simp only [rootAddress, ne_eq, not_true_eq_false, if_false, firstVisited]

/-- The root of the whole tree is the last node. -/
theorem rbNextPostorder_root {label : RbLabel} {left right : BinaryTree RbLabel}
    (stored : LaidOut memory 0 (.node label left right)) (fuel : Nat) :
    rbNextPostorder memory fuel label.address = some (.ok none) := by
  have cleared : clearColour (0 ||| label.colour) = 0 := clearColour_or (Nat.zero_mod 4) stored.2.2.1
  rw [rbNextPostorder, if_neg stored.root_ne_zero, rbParent, readNode_of_laidOut stored]
  simp only [cleared, if_true]

/-- The successor of the root of a subtree, by the cell of its parent. -/
theorem rbNextPostorder_child {label : RbLabel} {left right : BinaryTree RbLabel}
    (stored : LaidOut memory parent (.node label left right)) (aligned : parent % 4 = 0)
    (positive : parent ≠ 0) {cell : RbNode} (found : readNode memory parent = .ok cell) (fuel : Nat) :
    rbNextPostorder memory fuel label.address =
      if label.address = cell.left ∧ cell.right ≠ 0 then rbLeftDeepestNode memory fuel cell.right
      else some (.ok (some parent)) := by
  have cleared : clearColour (parent ||| label.colour) = parent := clearColour_or aligned stored.2.2.1
  rw [rbNextPostorder, if_neg stored.root_ne_zero, rbParent, readNode_of_laidOut stored]
  simp only [cleared, positive, if_false, found]

end Steps

/-! ## Walks -/

/-- The loop emits some nodes on its way from one position to another. -/
inductive Walks (memory : RbMemory) : Option Nat -> List Nat -> Option Nat -> Prop where
  | here (position : Option Nat) : Walks memory position [] position
  | step {node : Nat} {next last : Option Nat} {rest : List Nat}
      (successor : Settles (fun fuel => rbNextPostorder memory fuel node) (.ok next))
      (walk : Walks memory next rest last) : Walks memory (some node) (node :: rest) last

theorem Walks.append {memory : RbMemory} {first second third : Option Nat} {early late : List Nat}
    (walk : Walks memory first early second) (onward : Walks memory second late third) :
    Walks memory first (early ++ late) third := by
  induction walk with
  | here => exact onward
  | step successor _ inductionHypothesis => exact .step successor (inductionHypothesis onward)

/-- A walk that leaves the tree is a finished run of the loop. -/
theorem Walks.settles {memory : RbMemory} {first last : Option Nat} {nodes : List Nat}
    (walk : Walks memory first nodes last) (ended : last = none) :
    Settles (fun fuel => postorderFrom memory fuel first) ⟨nodes, .completed⟩ := by
  induction walk with
  | here position =>
      subst ended
      exact Settles.now fun _ => rfl
  | step successor _ inductionHypothesis =>
      apply successor.andThen (inductionHypothesis ended)
      intro fuel answer run
      simp only [postorderFrom, answer, run, Option.map_some, Run.after, List.singleton_append]

theorem rootAddress_mem {tree : BinaryTree RbLabel} (nonempty : tree ≠ .nil) :
    rootAddress tree ∈ postorder tree := by
  cases tree with
  | nil => exact False.elim (nonempty rfl)
  | node label left right =>
      apply List.mem_append_right
      apply List.mem_append_right
      exact List.mem_singleton_self label.address

/-- The roots of two siblings are different. -/
theorem sibling_ne {label : RbLabel} {left right : BinaryTree RbLabel} (leftNonempty : left ≠ .nil)
    (rightNonempty : right ≠ .nil) (distinct : (postorder (.node label left right)).Nodup) :
    rootAddress right ≠ rootAddress left := by
  intro same
  have apart := (List.nodup_append.mp distinct).2.2
  exact apart _ (rootAddress_mem leftNonempty) _
    (List.mem_append_left _ (rootAddress_mem rightNonempty)) same.symm

section Subtrees

variable {memory : RbMemory} {parent : Nat} {label : RbLabel} {left right : BinaryTree RbLabel}

/-- After the root of the left subtree comes the right subtree. -/
theorem settles_left_to_right {inner : RbLabel} {innerLeft innerRight : BinaryTree RbLabel}
    (stored : LaidOut memory parent (.node label (.node inner innerLeft innerRight) right))
    (nonempty : right ≠ .nil) :
    Settles (fun fuel => rbNextPostorder memory fuel inner.address) (.ok (some (firstVisited right))) := by
  have storedLeft := stored.2.2.2.2.1
  have storedRight := stored.2.2.2.2.2
  have sibling : rootAddress right ≠ 0 := by
    cases right with
    | nil => exact False.elim (nonempty rfl)
    | node other otherLeft otherRight => exact storedRight.root_ne_zero
  refine ⟨right.numNodes, fun fuel enough => ?_⟩
  change rbNextPostorder memory fuel inner.address = _
  rw [rbNextPostorder_child storedLeft stored.2.1 stored.1 (readNode_of_laidOut stored) fuel,
    if_pos ⟨rfl, sibling⟩]
  exact rbLeftDeepestNode_of_laidOut right nonempty storedRight enough

/-- After the root of an only or right child comes the parent. -/
theorem settles_left_to_parent {inner : RbLabel} {innerLeft innerRight : BinaryTree RbLabel}
    (stored : LaidOut memory parent (.node label (.node inner innerLeft innerRight) .nil)) :
    Settles (fun fuel => rbNextPostorder memory fuel inner.address) (.ok (some label.address)) := by
  refine ⟨0, fun fuel _ => ?_⟩
  change rbNextPostorder memory fuel inner.address = _
  rw [rbNextPostorder_child stored.2.2.2.2.1 stored.2.1 stored.1 (readNode_of_laidOut stored) fuel,
    if_neg (fun both => both.2 rfl)]

theorem settles_right_to_parent {inner : RbLabel} {innerLeft innerRight : BinaryTree RbLabel}
    (stored : LaidOut memory parent (.node label left (.node inner innerLeft innerRight)))
    (distinct : (postorder (.node label left (.node inner innerLeft innerRight))).Nodup) :
    Settles (fun fuel => rbNextPostorder memory fuel inner.address) (.ok (some label.address)) := by
  have storedRight := stored.2.2.2.2.2
  have other : inner.address ≠ rootAddress left := by
    cases left with
    | nil => exact storedRight.root_ne_zero
    | node outer outerLeft outerRight => exact sibling_ne (by simp) (by simp) distinct
  refine ⟨0, fun fuel _ => ?_⟩
  change rbNextPostorder memory fuel inner.address = _
  rw [rbNextPostorder_child storedRight stored.2.1 stored.1 (readNode_of_laidOut stored) fuel,
    if_neg (fun both => other both.1)]

end Subtrees

/-- From the node where the traversal of a subtree starts, the loop emits the
post-order listing of the subtree and arrives where the root of the subtree
leads. -/
theorem walks_of_laidOut {memory : RbMemory} {parent : Nat} (tree : BinaryTree RbLabel)
    (nonempty : tree ≠ .nil) (stored : LaidOut memory parent tree) (distinct : (postorder tree).Nodup)
    {next : Option Nat}
    (onward : Settles (fun fuel => rbNextPostorder memory fuel (rootAddress tree)) (.ok next)) :
    Walks memory (some (firstVisited tree)) (postorder tree) next := by
  induction tree generalizing parent next with
  | nil => exact False.elim (nonempty rfl)
  | node label left right leftHypothesis rightHypothesis =>
      have parts := List.nodup_append.mp distinct
      have last : Walks memory (some label.address) [label.address] next := .step onward (.here next)
      have rightDistinct := (List.nodup_append.mp parts.2.1).1
      have storedLeft := stored.2.2.2.2.1
      have storedRight := stored.2.2.2.2.2
      rw [postorder]
      cases left with
      | nil =>
          cases right with
          | nil => exact last
          | node inner innerLeft innerRight =>
              rw [firstVisited]
              exact (rightHypothesis (by simp) storedRight rightDistinct
                (settles_right_to_parent stored distinct)).append last
      | node outer outerLeft outerRight =>
          rw [firstVisited]
          cases right with
          | nil =>
              exact (leftHypothesis (by simp) storedLeft parts.1 (settles_left_to_parent stored)).append last
          | node inner innerLeft innerRight =>
              have leftWalk := leftHypothesis (by simp) storedLeft parts.1
                (settles_left_to_right stored (by simp))
              have rightWalk := rightHypothesis (by simp) storedRight rightDistinct
                (settles_right_to_parent stored distinct)
              exact leftWalk.append (rightWalk.append last)

/-- For every tree in memory, with distinct aligned addresses and any colours,
the iterator terminates and yields exactly the post-order listing. -/
theorem rbtreePostorderForEach_postorder (memory : RbMemory) (root : Nat) (tree : BinaryTree RbLabel)
    (present : root ≠ 0) (rooted : memory.roots.read root = some (rootAddress tree))
    (stored : LaidOut memory 0 tree) (distinct : (postorder tree).Nodup) :
    Settles (fun fuel => rbtreePostorderForEach memory fuel (.rbRoot root))
        ⟨postorder tree, .completed⟩ ∧
      Settles (fun fuel => rbtreePostorderForEach memory fuel (.rbRootPointer root))
        ⟨postorder tree, .completed⟩ := by
  have settled : Settles (fun fuel => postorderRoot memory fuel root) ⟨postorder tree, .completed⟩ := by
    cases tree with
    | nil =>
        apply Settles.now
        intro fuel
        simp only [postorderRoot, present, if_false, rooted, rootAddress, rbLeftDeepestNode, if_true]
        rfl
    | node label left right =>
        have walk := walks_of_laidOut (.node label left right) (by simp) stored distinct
          ⟨0, fun fuel _ => rbNextPostorder_root stored fuel⟩
        rcases walk.settles rfl with ⟨bound, finishes⟩
        refine ⟨bound + (BinaryTree.node label left right).numNodes, fun fuel enough => ?_⟩
        have descent := rbLeftDeepestNode_of_laidOut _ (by simp) stored
          (Nat.le_trans (Nat.le_add_left _ _) enough)
        simp only [postorderRoot, present, if_false, rooted, descent]
        exact finishes fuel (Nat.le_trans (Nat.le_add_right _ _) enough)
  exact ⟨settled, settled⟩

/-- Four nodes with a left-only child, stored with all four colours. -/
def fourNodeTree : BinaryTree RbLabel :=
  .node ⟨16, 1⟩ (.node ⟨32, 0⟩ (.node ⟨64, 3⟩ .nil .nil) .nil) (.node ⟨48, 2⟩ .nil .nil)

def fourNodeMemory : RbMemory where
  roots := .ofTable [(8, 16)]
  nodes := .ofTable [(16, ⟨1, 32, 48⟩), (32, ⟨16, 64, 0⟩), (48, ⟨18, 0, 0⟩), (64, ⟨35, 0, 0⟩)]

theorem rbtreePostorderForEach_postorder_fourNode :
    LaidOut fourNodeMemory 0 fourNodeTree ∧
      Settles (fun fuel => rbtreePostorderForEach fourNodeMemory fuel (.rbRoot 8))
        ⟨[64, 32, 48, 16], .completed⟩ := by
  have stored : LaidOut fourNodeMemory 0 fourNodeTree := by
    simp only [fourNodeTree, LaidOut]
    decide
  exact ⟨stored, (rbtreePostorderForEach_postorder fourNodeMemory 8 fourNodeTree (by decide) rfl stored
    (by decide)).1⟩

end Types
end CrashPython

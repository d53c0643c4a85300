import CrashPython.Library.Orbit

namespace CrashPython
namespace Library

/-!
Trees whose nodes name their parents.

A tree is given twice over: every node has a list of children, and every child names
its parent.  That the two agree is what makes it a tree.  The way up from a node is
then an orbit of the parent, so that it has one length and one place on every level,
and different children of a node have nothing in common below them.
-/

variable {Node : Type} (parent : Node -> Option Node) (children : Node -> List Node)

/-- Below a node is a finite tree.  The children are listed once each, they name the node as
their parent, and going down comes to an end. -/
inductive Ramifies : Node -> Prop where
  | branch {node : Node} (once : (children node).Nodup)
      (named : forall child, child ∈ children node -> parent child = some node)
      (each : forall child, child ∈ children node -> Ramifies child) : Ramifies node

/-- A node lies some number of levels below another one. -/
inductive Below (top : Node) : Nat -> Node -> Prop where
  | top : Below top 0 top
  | child {level : Nat} {node child : Node} (above : Below top level node)
      (listed : child ∈ children node) : Below top (level + 1) child

variable {parent children}

namespace Below

variable {top node child : Node} {level : Nat}

theorem eq_top (below : Below children top 0 node) : node = top := by
  cases below
  rfl

/-- The way down through a child. -/
theorem through (listed : child ∈ children top) (below : Below children child level node) :
    Below children top (level + 1) node := by
  induction below with
  | top => exact .child .top listed
  | child _ next inductionHypothesis => exact .child inductionHypothesis next

theorem trans {middle : Node} {further : Nat} (high : Below children top level middle)
    (low : Below children middle further node) : Below children top (level + further) node := by
  induction low with
  | top => exact high
  | child _ listed inductionHypothesis => exact .child inductionHypothesis listed

/-- The first step of a way down. -/
theorem first (below : Below children top (level + 1) node) :
    Exists fun child : Node => child ∈ children top ∧ Below children child level node := by
  generalize number : level + 1 = levels at below
  induction below generalizing level with
  | top => cases number
  | @child depth last next above listed inductionHypothesis =>
      cases Nat.succ.inj number
      cases depth with
      | zero =>
          rw [above.eq_top] at listed
          exact ⟨next, listed, .top⟩
      | succ depth =>
          rcases inductionHypothesis rfl with ⟨child, here, rest⟩
          exact ⟨child, here, .child rest listed⟩

/-- A level on the way down. -/
theorem split {upper lower : Nat} (below : Below children top (upper + lower) node) :
    Exists fun middle : Node => Below children top upper middle ∧ Below children middle lower node := by
  induction lower generalizing node with
  | zero => exact ⟨node, below, .top⟩
  | succ lower inductionHypothesis =>
      generalize number : upper + (lower + 1) = levels at below
      cases below with
      | top => omega
      | @child depth last _ above listed =>
          have same : depth = upper + lower := by omega
          subst same
          rcases inductionHypothesis above with ⟨middle, high, low⟩
          exact ⟨middle, high, .child low listed⟩

end Below

namespace Ramifies

variable {top node child other : Node} {level first second : Nat}

theorem once (tree : Ramifies parent children top) : (children top).Nodup := by
  cases tree with
  | branch once named each => exact once

theorem named (tree : Ramifies parent children top) (listed : child ∈ children top) :
    parent child = some top := by
  cases tree with
  | branch once named each => exact named child listed

theorem each (tree : Ramifies parent children top) (listed : child ∈ children top) :
    Ramifies parent children child := by
  cases tree with
  | branch once named each => exact each child listed

theorem of_below (tree : Ramifies parent children top) (below : Below children top level node) :
    Ramifies parent children node := by
  induction below with
  | top => exact tree
  | child _ listed inductionHypothesis => exact inductionHypothesis.each listed

/-- The parents lead back up. -/
theorem orbit_parent (tree : Ramifies parent children top) (below : Below children top level node) :
    orbit parent node level = some top := by
  induction level generalizing top with
  | zero => exact congrArg some below.eq_top
  | succ level inductionHypothesis =>
      rcases below.first with ⟨child, listed, rest⟩
      rw [orbit_succ_of_some (inductionHypothesis (tree.each listed) rest)]
      exact tree.named listed

/-- Nothing lies below itself. -/
theorem not_below_self (tree : Ramifies parent children top) :
    ¬ Below children top (level + 1) top := by
  induction tree generalizing level with
  | branch once named each inductionHypothesis =>
      intro below
      rcases below.first with ⟨child, listed, rest⟩
      exact inductionHypothesis child listed (.child rest listed)

/-- A node lies on one level only. -/
theorem level_unique (tree : Ramifies parent children top) (one : Below children top first node)
    (two : Below children top second node) : first = second := by
  have notLess : forall {less more : Nat}, Below children top less node ->
      Below children top more node -> ¬ less < more := by
    intro less more short long ordered
    have sum : (more - less - 1 + 1) + less = more := by omega
    rw [← sum] at long
    rcases long.split with ⟨middle, high, low⟩
    have same : some middle = some top :=
      ((tree.of_below high).orbit_parent low).symm.trans (tree.orbit_parent short)
    rw [Option.some.inj same] at high
    exact tree.not_below_self high
  exact Nat.le_antisymm (Nat.le_of_not_lt (notLess two one)) (Nat.le_of_not_lt (notLess one two))

/-- What lies below two children of a node has been reached through one of them. -/
theorem child_unique (tree : Ramifies parent children top) (one : child ∈ children top)
    (two : other ∈ children top) (left : Below children child first node)
    (right : Below children other second node) : child = other := by
  have level := tree.level_unique (left.through one) (right.through two)
  cases Nat.succ.inj level
  exact Option.some.inj (((tree.each one).orbit_parent left).symm.trans
    ((tree.each two).orbit_parent right))

/-- A node below has one parent below. -/
theorem parent_unique (tree : Ramifies parent children top) (one : Below children top first node)
    (two : Below children top second other) (left : child ∈ children node)
    (right : child ∈ children other) : node = other :=
  Option.some.inj (((tree.of_below one).named left).symm.trans ((tree.of_below two).named right))

end Ramifies

/-- A listing that has each node once, and no node behind one that lies below it. -/
structure TopDown (children : Node -> List Node) (order : List Node) : Prop where
  once : order.Nodup
  ordered : order.Pairwise fun early late => forall level, ¬ Below children late (level + 1) early

namespace Ramifies

variable {top : Node} {order chosen : List Node} {listing : Node -> List Node}

/-- The top before the listings of some of its children, one after another. -/
theorem topDown (tree : Ramifies parent children top)
    (listed : forall child, child ∈ chosen -> child ∈ children top) (once : chosen.Nodup)
    (inside : forall child, child ∈ chosen -> forall node, node ∈ listing child ->
      Exists fun level : Nat => Below children child level node)
    (each : forall child, child ∈ chosen -> TopDown children (listing child)) :
    TopDown children (top :: chosen.flatMap listing) := by
  have apart : forall {one two node other : Node} {level : Nat}, one ∈ chosen -> two ∈ chosen ->
      one ≠ two -> node ∈ listing one -> other ∈ listing two -> ¬ Below children other level node := by
    intro one two node other level here there different first second below
    rcases inside one here node first with ⟨high, left⟩
    rcases inside two there other second with ⟨low, right⟩
    have joined := right.trans below
    exact different (tree.child_unique (listed one here) (listed two there) left joined)
  refine ⟨List.nodup_cons.mpr ⟨?_, ?_⟩, List.pairwise_cons.mpr ⟨?_, ?_⟩⟩
  · intro member
    rcases List.mem_flatMap.mp member with ⟨child, here, found⟩
    rcases inside child here top found with ⟨level, below⟩
    exact tree.not_below_self (below.through (listed child here))
  · refine List.nodup_flatMap.mpr ⟨fun child here => (each child here).once, ?_⟩
    refine List.Pairwise.imp_of_mem ?_ once
    intro one two here there different node first second
    exact apart here there different first second .top
  · intro node member level below
    rcases List.mem_flatMap.mp member with ⟨child, here, found⟩
    rcases inside child here node found with ⟨further, under⟩
    have around := (under.through (listed child here)).trans below
    exact tree.not_below_self around
  · refine List.pairwise_flatMap.mpr ⟨fun child here => (each child here).ordered, ?_⟩
    refine List.Pairwise.imp_of_mem ?_ once
    intro one two here there different node first other second level
    exact apart here there different first second

/-- The children of different nodes of a tree are different. -/
theorem nodup_children (tree : Ramifies parent children top) (once : order.Nodup)
    (inside : forall node, node ∈ order -> Exists fun level : Nat => Below children top level node) :
    (order.flatMap children).Nodup := by
  refine List.nodup_flatMap.mpr ⟨?_, ?_⟩
  · intro node here
    rcases inside node here with ⟨level, below⟩
    exact (tree.of_below below).once
  · refine List.Pairwise.imp_of_mem ?_ once
    intro one two here there different child left right
    rcases inside one here with ⟨high, first⟩
    rcases inside two there with ⟨low, second⟩
    exact different (tree.parent_unique first second left right)

end Ramifies

end Library
end CrashPython

import CrashPython.Subsystem.Kernfs
import Mathlib.Data.Char
import Mathlib.Data.List.Lex
import Mathlib.Data.List.Sort

namespace CrashPython
namespace Commands

open Library Types Subsystem

/-!
# The listing of `crash/commands/kernfs.py`

`kernfs ls` prints a directory under a heading that ends in its name, one line for each
child, and then goes into the subdirectories, one level less deep each time.  A depth below
zero never comes to zero, and then the whole hierarchy is listed.

On a hierarchy the recursion ends, and it visits the directories from the top down, each of
them once.
-/

/-- Everything that can leave the command. -/
inductive LsError where
  | kernfs (error : KernfsError)
  | notDirectory (kn : Nat)
deriving DecidableEq, Repr

/-- The message of the `CommandError`. -/
def LsError.commandText : LsError -> Option String
  | .notDirectory kn => some (toString kn ++ " is not a kernfs directory")
  | .kernfs _ => none

/-- A printed line. -/
inductive LsLine where
  | columns
  | heading (path : PyString)
  | entry (kn : Nat) (cell : KernfsNode)
  | blank
deriving DecidableEq, Repr

/-- The line of `show_one_kn`. -/
def entryText (kn : Nat) (cell : KernfsNode) : PyString :=
  "    ".toList ++ [if cell.isDir then 'd' else ' ', if cell.isLink then 'l' else ' '] ++
    "    ".toList ++ PyString.padLeft '0' 3 (PyString.digits 8 (cell.mode &&& 0x1ff)) ++ " ".toList ++
    PyString.padRight 32 cell.name ++ " ".toList ++ PyString.padLeft '0' 16 (PyString.digits 16 kn)

/-- The text of a printed line. -/
def LsLine.text : LsLine -> PyString
  | .columns =>
      PyString.center 6 "flags".toList ++ " ".toList ++ PyString.center 6 "mode".toList ++
        " ".toList ++ PyString.center 32 "name".toList ++ " ".toList ++
        PyString.center 16 "kernfs_node".toList
  | .heading path => path ++ ":".toList
  | .entry kn cell => entryText kn cell
  | .blank => []

/-- The order of the sort key: directories first, and then by name. -/
def sortsBefore (first second : Nat × KernfsNode) : Bool :=
  if first.2.isDir = second.2.isDir then decide (first.2.name ≤ second.2.name) else first.2.isDir

/-- The children as they are printed, with `-f` in the order of the tree. -/
def arranged (sort : Bool) (children : List (Nat × KernfsNode)) : List (Nat × KernfsNode) :=
  if sort then children.mergeSort sortsBefore else children

section Listing

variable (memory : KernfsMemory) (sort : Bool)

/-- The children with their fields, up to the first that can not be read. -/
def readChildren (children : Run Nat KernfsError) : Run (Nat × KernfsNode) KernfsError :=
  children.forEach id fun kn =>
    match memory.node kn with
    | .error error => ⟨[], .raised error⟩
    | .ok cell => ⟨[(kn, cell)], .completed⟩

/-- The loop over the children.  A sort comes before the first line. -/
def shownChildren (fuel kn : Nat) : Option (Run (Nat × KernfsNode) KernfsError) :=
  (memory.forEachChild fuel kn).map fun children =>
    if sort then
      match children.ending with
      | .raised error => ⟨[], .raised error⟩
      | .completed =>
          match (readChildren memory children).ending with
          | .raised error => ⟨[], .raised error⟩
          | .completed => ⟨arranged sort (readChildren memory children).events, .completed⟩
    else readChildren memory children

/-- `_ls_dir`. -/
def lsDir : Nat -> Int -> Nat -> PyString -> Option (Run LsLine KernfsError)
  | 0, _, _, _ => none
  | fuel + 1, depth, kn, pathPrefix =>
      match memory.node kn with
      | .error error => some ⟨[], .raised error⟩
      | .ok cell =>
          let path := pathPrefix ++ cell.name ++ ['/']
          match shownChildren memory sort fuel kn with
          | none => none
          | some children =>
              let lines := .heading path :: children.events.map fun child => .entry child.1 child.2
              match children.ending with
              | .raised error => some ⟨lines, .raised error⟩
              | .completed =>
                  let subdirs := (children.events.filter fun child => child.2.isDir).map Prod.fst
                  (Run.sequence (if depth = 0 then []
                    else subdirs.map fun dkn => lsDir fuel (depth - 1) dkn path)).map
                    (Run.after (lines ++ [.blank]))

/-- `command_ls`, with `find_kn` for an address. -/
def commandLs (fuel : Nat) (depth : Int) (kn : Nat) : Option (Run LsLine LsError) :=
  match memory.node kn with
  | .error error => some ⟨[], .raised (.kernfs error)⟩
  | .ok cell =>
      if cell.isDir then
        (lsDir memory sort fuel depth kn []).map fun run =>
          ⟨.columns :: run.events, run.ending.map .kernfs⟩
      else some ⟨[], .raised (.notDirectory kn)⟩

end Listing

/-! ## Hierarchies -/

/-- The pointer to the parent. -/
def parentOf (memory : KernfsMemory) (kn : Nat) : Option Nat :=
  (memory.nodes.read kn).map KernfsNode.parent

/-- A node and its children are in memory. -/
structure StoresNode (memory : KernfsMemory) (children : Nat -> List Nat) (kn : Nat)
    (cell : KernfsNode) : Prop where
  readable : memory.nodes.read kn = some cell
  inside : cell.isDir = true -> memory.StoresChildren kn (children kn)
  leaf : cell.isDir = false -> children kn = []

/-- A hierarchy is in memory: a tree whose directories keep their children, and whose other
nodes have none. -/
structure Hierarchy (memory : KernfsMemory) (children : Nat -> List Nat) (top : Nat) : Prop where
  tree : Ramifies (parentOf memory) children top
  stored : forall {level kn : Nat}, Below children top level kn ->
    Exists fun cell : KernfsNode => StoresNode memory children kn cell

/-- The heading of a directory on some level, below a directory that is listed under a
prefix. -/
inductive Headed (memory : KernfsMemory) (children : Nat -> List Nat) (pathPrefix : PyString)
    (top : Nat) : Nat -> Nat -> PyString -> Prop where
  | top {cell : KernfsNode} (readable : memory.nodes.read top = some cell)
      (directory : cell.isDir = true) : Headed memory children pathPrefix top 0 top (pathPrefix ++ cell.name ++ ['/'])
  | child {level above kn : Nat} {path : PyString} {cell : KernfsNode}
      (upper : Headed memory children pathPrefix top level above path) (listed : kn ∈ children above)
      (readable : memory.nodes.read kn = some cell) (directory : cell.isDir = true) :
      Headed memory children pathPrefix top (level + 1) kn (path ++ cell.name ++ ['/'])

/-- A level that is reached with this depth. -/
def Within (depth : Int) (level : Nat) : Prop :=
  depth < 0 ∨ (level : Int) ≤ depth

/-- Nodes with their fields. -/
def withCells (memory : KernfsMemory) (kns : List Nat) : List (Nat × KernfsNode) :=
  kns.filterMap fun kn => (memory.nodes.read kn).map (Prod.mk kn)

/-- The lines that are printed for one directory. -/
def visitLines (memory : KernfsMemory) (sort : Bool) (children : Nat -> List Nat)
    (visit : Nat × PyString) : List LsLine :=
  .heading visit.2 ::
    ((arranged sort (withCells memory (children visit.1))).map fun child => .entry child.1 child.2) ++
    [.blank]

variable {memory : KernfsMemory} {sort : Bool} {children : Nat -> List Nat} {pathPrefix : PyString}
variable {top kn : Nat} {kns : List Nat} {cell : KernfsNode}

theorem mem_withCells {child : Nat × KernfsNode} : child ∈ withCells memory kns <->
    child.1 ∈ kns ∧ memory.nodes.read child.1 = some child.2 := by
  rcases child with ⟨kn, cell⟩
  rw [withCells, List.mem_filterMap]
  constructor
  · rintro ⟨other, member, found⟩
    rcases Option.map_eq_some_iff.mp found with ⟨stored, readable, same⟩
    cases same
    exact ⟨member, readable⟩
  · rintro ⟨member, readable⟩
    exact ⟨kn, member, Option.map_eq_some_iff.mpr ⟨cell, readable, rfl⟩⟩

/-- Nodes that can be read are all there, in their order. -/
theorem map_fst_withCells (stored : forall kn, kn ∈ kns ->
    Exists fun cell : KernfsNode => memory.nodes.read kn = some cell) :
    (withCells memory kns).map Prod.fst = kns := by
  induction kns with
  | nil => rfl
  | cons kn rest inductionHypothesis =>
      rcases stored kn List.mem_cons_self with ⟨cell, readable⟩
      have later := inductionHypothesis fun other member => stored other (List.mem_cons_of_mem kn member)
      rw [withCells, List.filterMap_cons, readable]
      exact congrArg (List.cons kn) later

theorem readChildren_withCells (stored : forall kn, kn ∈ kns ->
    Exists fun cell : KernfsNode => memory.nodes.read kn = some cell) :
    readChildren memory ⟨kns, .completed⟩ = ⟨withCells memory kns, .completed⟩ := by
  have emitted : withCells memory kns =
      kns.flatMap fun kn => ((memory.nodes.read kn).map (Prod.mk kn)).toList :=
    List.filterMap_eq_flatMap_toList _ _
  rw [readChildren, emitted]
  apply Run.forEach_emits
  intro kn member
  rcases stored kn member with ⟨cell, readable⟩
  rw [KernfsMemory.node_ok readable, readable]
  rfl

theorem arranged_perm (sort : Bool) (entries : List (Nat × KernfsNode)) : (arranged sort entries).Perm entries := by
  cases sort with
  | false => exact .refl _
  | true => exact List.mergeSort_perm _ _

/-- The sort puts directories first, and orders by name what is alike. -/
theorem arranged_sorted (entries : List (Nat × KernfsNode)) :
    (arranged true entries).Pairwise fun first second => sortsBefore first second = true := by
  have transitive : forall first second third : Nat × KernfsNode,
      sortsBefore first second = true -> sortsBefore second third = true ->
        sortsBefore first third = true := by
    rintro ⟨_, first⟩ ⟨_, second⟩ ⟨_, third⟩
    simp only [sortsBefore]
    cases first.isDir <;> cases second.isDir <;> cases third.isDir <;> simp
    all_goals exact le_trans
  have total : forall first second : Nat × KernfsNode,
      (sortsBefore first second || sortsBefore second first) = true := by
    rintro ⟨_, first⟩ ⟨_, second⟩
    simp only [sortsBefore]
    cases first.isDir <;> cases second.isDir <;> simp
    all_goals exact le_total _ _
  exact List.pairwise_mergeSort transitive total entries

/-! ## The run on a hierarchy -/

/-- The children of a directory that are gone into, in the order of the listing. -/
def chosenDirs (memory : KernfsMemory) (sort : Bool) (children : Nat -> List Nat) (kn : Nat) : List Nat :=
  ((arranged sort (withCells memory (children kn))).filter fun child => child.2.isDir).map Prod.fst

/-- The same with a depth, of which nothing may be left. -/
def goneInto (memory : KernfsMemory) (sort : Bool) (children : Nat -> List Nat) (depth : Int) (kn : Nat) :
    List Nat :=
  if depth = 0 then [] else chosenDirs memory sort children kn

theorem mem_goneInto {depth : Int} {child : Nat} : child ∈ goneInto memory sort children depth kn <->
    depth ≠ 0 ∧ child ∈ chosenDirs memory sort children kn := by
  by_cases last : depth = 0
  · simp only [goneInto, last, if_true, List.not_mem_nil, ne_eq, not_true_eq_false, false_and]
  · simp only [goneInto, last, if_false, ne_eq, not_false_eq_true, true_and]

theorem map_goneInto {Line : Type} {depth : Int} (list : Nat -> Line) :
    (if depth = 0 then [] else (chosenDirs memory sort children kn).map list) =
      (goneInto memory sort children depth kn).map list := by
  by_cases last : depth = 0
  · rw [goneInto, if_pos last, if_pos last, List.map_nil]
  · rw [goneInto, if_neg last, if_neg last]

namespace Hierarchy

/-- The children can be read. -/
theorem readable (hierarchy : Hierarchy memory children top) {child : Nat}
    (listed : child ∈ children top) :
    Exists fun cell : KernfsNode => memory.nodes.read child = some cell := by
  rcases hierarchy.stored (.child .top listed) with ⟨cell, stores⟩
  exact ⟨cell, stores.readable⟩

theorem child (hierarchy : Hierarchy memory children top) {child : Nat}
    (listed : child ∈ children top) : Hierarchy memory children child where
  tree := hierarchy.tree.each listed
  stored := fun below => hierarchy.stored (below.through listed)

theorem of_below (hierarchy : Hierarchy memory children top) {level : Nat}
    (down : Below children top level kn) : Hierarchy memory children kn where
  tree := hierarchy.tree.of_below down
  stored := fun further => hierarchy.stored (down.trans further)

/-- What has children is a directory. -/
theorem directory_of_mem (hierarchy : Hierarchy memory children top) {child : Nat}
    (listed : child ∈ children top) : Exists fun cell : KernfsNode =>
      memory.nodes.read top = some cell ∧ cell.isDir = true := by
  rcases hierarchy.stored .top with ⟨cell, stores⟩
  refine ⟨cell, stores.readable, ?_⟩
  by_contra leaf
  rw [stores.leaf (Bool.eq_false_iff.mpr leaf)] at listed
  cases listed

/-- The loop over the children of a directory gets all of them. -/
theorem shownChildren (hierarchy : Hierarchy memory children top) (sort : Bool)
    (readable : memory.nodes.read top = some cell) (directory : cell.isDir = true) :
    Settles (fun fuel => shownChildren memory sort fuel top)
      ⟨arranged sort (withCells memory (children top)), .completed⟩ := by
  rcases hierarchy.stored .top with ⟨stored, stores⟩
  cases readable.symm.trans stores.readable
  have listed := (stores.inside directory).forEachChild readable directory
  have all := readChildren_withCells fun kn member => hierarchy.readable member
  refine (listed.map _).congr ?_
  cases sort with
  | false => exact all
  | true => simp only [all, if_true]

theorem mem_chosenDirs {child : Nat} : child ∈ chosenDirs memory sort children top <->
    child ∈ children top ∧
      Exists fun cell : KernfsNode => memory.nodes.read child = some cell ∧ cell.isDir = true := by
  simp only [chosenDirs, List.mem_map, List.mem_filter, (arranged_perm _ _).mem_iff, mem_withCells]
  constructor
  · rintro ⟨⟨kn, cell⟩, ⟨⟨member, readable⟩, directory⟩, rfl⟩
    exact ⟨member, cell, readable, directory⟩
  · rintro ⟨member, cell, readable, directory⟩
    exact ⟨(child, cell), ⟨⟨member, readable⟩, directory⟩, rfl⟩

theorem nodup_chosenDirs (hierarchy : Hierarchy memory children top) :
    (chosenDirs memory sort children top).Nodup := by
  have all : ((withCells memory (children top)).map Prod.fst).Nodup := by
    rw [map_fst_withCells fun kn member => hierarchy.readable member]
    exact hierarchy.tree.once
  have arrangedOnce : ((arranged sort (withCells memory (children top))).map Prod.fst).Nodup :=
    ((arranged_perm _ _).map Prod.fst).nodup_iff.mpr all
  exact arrangedOnce.sublist (List.filter_sublist.map Prod.fst)

theorem nodup_goneInto (hierarchy : Hierarchy memory children top) (depth : Int) :
    (goneInto memory sort children depth top).Nodup := by
  by_cases last : depth = 0
  · rw [goneInto, if_pos last]
    exact List.nodup_nil
  · rw [goneInto, if_neg last]
    exact hierarchy.nodup_chosenDirs

end Hierarchy

namespace Headed

variable {level : Nat} {path : PyString}

theorem descends (headed : Headed memory children pathPrefix top level kn path) :
    Below children top level kn := by
  induction headed with
  | top => exact .top
  | child _ listed _ _ inductionHypothesis => exact .child inductionHypothesis listed

theorem directory (headed : Headed memory children pathPrefix top level kn path) :
    Exists fun inner : KernfsNode => memory.nodes.read kn = some inner ∧ inner.isDir = true := by
  cases headed with
  | top readable directory => exact ⟨_, readable, directory⟩
  | child upper listed readable directory => exact ⟨_, readable, directory⟩

/-- A heading that begins with a child. -/
theorem through {child : Nat} (listed : child ∈ children top)
    (readable : memory.nodes.read top = some cell) (directory : cell.isDir = true)
    (headed : Headed memory children (pathPrefix ++ cell.name ++ ['/']) child level kn path) :
    Headed memory children pathPrefix top (level + 1) kn path := by
  induction headed with
  | top found inner => exact .child (.top readable directory) listed found inner
  | child _ next found inner inductionHypothesis => exact .child inductionHypothesis next found inner

theorem zero (headed : Headed memory children pathPrefix top 0 kn path)
    (readable : memory.nodes.read top = some cell) :
    (kn, path) = (top, pathPrefix ++ cell.name ++ ['/']) := by
  cases headed with
  | top found directory =>
      cases readable.symm.trans found
      rfl

/-- A heading below a directory begins with one of its children, which is a directory. -/
theorem first (headed : Headed memory children pathPrefix top (level + 1) kn path) (sort : Bool)
    (readable : memory.nodes.read top = some cell) :
    Exists fun child : Nat => child ∈ chosenDirs memory sort children top ∧
      Headed memory children (pathPrefix ++ cell.name ++ ['/']) child level kn path := by
  generalize number : level + 1 = levels at headed
  induction headed generalizing level with
  | top => cases number
  | @child depth above last text lastCell upper listed found inner inductionHypothesis =>
      cases Nat.succ.inj number
      cases depth with
      | zero =>
          cases upper.zero readable
          exact ⟨last, Hierarchy.mem_chosenDirs.mpr ⟨listed, lastCell, found, inner⟩, .top found inner⟩
      | succ depth =>
          rcases inductionHypothesis rfl with ⟨child, here, rest⟩
          exact ⟨child, here, .child rest listed found inner⟩

end Headed

theorem within_zero (depth : Int) : Within depth 0 := by
  simp only [Within]
  omega

theorem Within.ne_zero {depth : Int} {level : Nat} (within : Within depth (level + 1)) : depth ≠ 0 := by
  simp only [Within] at within
  omega

theorem within_succ {depth : Int} (further : depth ≠ 0) (level : Nat) :
    Within depth (level + 1) <-> Within (depth - 1) level := by
  simp only [Within]
  omega

/-- The directories that are visited, with their headings. -/
theorem Hierarchy.visits (hierarchy : Hierarchy memory children top) (sort : Bool)
    (readable : memory.nodes.read top = some cell) (directory : cell.isDir = true) (depth : Int)
    (pathPrefix : PyString) :
    Exists fun visits : List (Nat × PyString) =>
      Settles (fun fuel => lsDir memory sort fuel depth top pathPrefix)
          ⟨visits.flatMap (visitLines memory sort children), .completed⟩ ∧
        TopDown children (visits.map Prod.fst) ∧
        forall kn path, (kn, path) ∈ visits <-> Exists fun level : Nat =>
          Within depth level ∧ Headed memory children pathPrefix top level kn path := by
  have tree := hierarchy.tree
  induction tree generalizing cell depth pathPrefix with
  | @branch top once named each inductionHypothesis =>
      let path := pathPrefix ++ cell.name ++ ['/']
      have inner : forall child, child ∈ goneInto memory sort children depth top ->
          Exists fun visits : List (Nat × PyString) =>
            Settles (fun fuel => lsDir memory sort fuel (depth - 1) child path)
                ⟨visits.flatMap (visitLines memory sort children), .completed⟩ ∧
              TopDown children (visits.map Prod.fst) ∧
              forall kn text, (kn, text) ∈ visits <-> Exists fun level : Nat =>
                Within (depth - 1) level ∧ Headed memory children path child level kn text := by
        intro child member
        rcases mem_chosenDirs.mp (mem_goneInto.mp member).2 with ⟨listed, childCell, found, isDir⟩
        exact inductionHypothesis child listed (hierarchy.child listed) found isDir (depth - 1) path
      choose! visitsOf settled ordered exactly using inner
      refine ⟨(top, path) :: (goneInto memory sort children depth top).flatMap visitsOf, ?_, ?_, ?_⟩
      · have rest := Settles.sequence settled
        apply (hierarchy.shownChildren sort readable directory).andThen rest
        intro fuel answer run
        rw [lsDir, KernfsMemory.node_ok readable, answer]
        change (Run.sequence (if depth = 0 then [] else (chosenDirs memory sort children top).map
          fun dkn => lsDir memory sort fuel (depth - 1) dkn path)).map _ = _
        rw [map_goneInto, run, Option.map_some, Run.after, List.flatMap_cons, List.flatMap_assoc]
        rfl
      · rw [List.map_cons, List.map_flatMap]
        refine hierarchy.tree.topDown ?_ (hierarchy.nodup_goneInto depth) ?_ ordered
        · intro child member
          exact (mem_chosenDirs.mp (mem_goneInto.mp member).2).1
        · intro child member kn visited
          rcases List.mem_map.mp visited with ⟨⟨kn, text⟩, here, rfl⟩
          rcases (exactly child member kn text).mp here with ⟨level, _, headed⟩
          exact ⟨level, headed.descends⟩
      · intro kn text
        rw [List.mem_cons, List.mem_flatMap]
        constructor
        · rintro (same | ⟨child, member, here⟩)
          · cases same
            exact ⟨0, within_zero depth, .top readable directory⟩
          · rcases (exactly child member kn text).mp here with ⟨level, within, headed⟩
            rcases mem_goneInto.mp member with ⟨further, chosen⟩
            exact ⟨level + 1, (within_succ further level).mpr within,
              headed.through (mem_chosenDirs.mp chosen).1 readable directory⟩
        · rintro ⟨level, within, headed⟩
          cases level with
          | zero => exact Or.inl (headed.zero readable)
          | succ level =>
              rcases headed.first sort readable with ⟨child, chosen, rest⟩
              have further : depth ≠ 0 := within.ne_zero
              exact Or.inr ⟨child, mem_goneInto.mpr ⟨further, chosen⟩,
                (exactly child (mem_goneInto.mpr ⟨further, chosen⟩) kn text).mpr
                  ⟨level, (within_succ further level).mp within, rest⟩⟩

/-! ## A small hierarchy -/

/-- The children in `smallKernfs`. -/
def smallChildren (kn : Nat) : List Nat :=
  if kn = 64 then [128, 256] else if kn = 256 then [512] else []

theorem smallHierarchy : Hierarchy smallKernfs smallChildren 64 where
  tree := by
    have file : forall kn, smallChildren kn = [] -> Ramifies (parentOf smallKernfs) smallChildren kn := by
      intro kn none
      refine .branch ?_ ?_ ?_ <;> rw [none]
      · exact List.nodup_nil
      · exact fun child member => False.elim (List.not_mem_nil member)
      · exact fun child member => False.elim (List.not_mem_nil member)
    have directory : Ramifies (parentOf smallKernfs) smallChildren 256 := by
      refine .branch (by decide) (by decide) ?_
      intro child member
      rw [List.mem_singleton.mp member]
      exact file 512 rfl
    refine .branch (by decide) (by decide) ?_
    intro child member
    rcases List.mem_cons.mp member with rfl | member
    · exact file 128 rfl
    · rw [List.mem_singleton.mp member]
      exact directory
  stored := by
    intro level kn below
    have closed : forall node, node ∈ [64, 128, 256, 512] ->
        forall child, child ∈ smallChildren node -> child ∈ [64, 128, 256, 512] := by decide
    have member : kn ∈ [64, 128, 256, 512] := by
      induction below with
      | top => decide
      | child _ listed inductionHypothesis => exact closed _ inductionHypothesis _ listed
    have rootTree : smallKernfs.StoresChildren 64 [128, 256] :=
      ⟨by decide, ⟨.node ⟨264, 1⟩ (.node ⟨136, 0⟩ .nil .nil) .nil, by simp only [LaidOut]; decide, rfl, rfl⟩,
        by decide, by decide⟩
    have dirTree : smallKernfs.StoresChildren 256 [512] :=
      ⟨by decide, ⟨.node ⟨520, 1⟩ .nil .nil, by simp only [LaidOut]; decide, rfl, rfl⟩,
        by decide, by decide⟩
    simp only [List.mem_cons, List.not_mem_nil, or_false] at member
    rcases member with rfl | rfl | rfl | rfl
    · exact ⟨⟨1, 0o755, [], 0⟩, rfl, fun _ => rootTree, by decide⟩
    · exact ⟨⟨2, 0o644, ['b'], 64⟩, rfl, fun impossible => absurd impossible (by decide), fun _ => rfl⟩
    · exact ⟨⟨1, 0o755, ['a'], 64⟩, rfl, fun _ => dirTree, by decide⟩
    · exact ⟨⟨2, 0o644, ['c'], 256⟩, rfl, fun impossible => absurd impossible (by decide), fun _ => rfl⟩

/-! ## What is printed -/

/-- The heading of a line. -/
def LsLine.headingOf : LsLine -> Option PyString
  | .heading path => some path
  | _ => none

/-- The node that a line shows. -/
def LsLine.shownOf : LsLine -> Option Nat
  | .entry kn _ => some kn
  | _ => none

/-- The lines of a hierarchy down to a depth.  The directories are headed from the top down, and
every other node in reach is shown once. -/
structure ListsHierarchy (memory : KernfsMemory) (children : Nat -> List Nat) (top : Nat) (depth : Int)
    (lines : List LsLine) : Prop where
  headings : Exists fun visits : List (Nat × PyString) =>
    lines.filterMap LsLine.headingOf = visits.map Prod.snd ∧
      TopDown children (visits.map Prod.fst) ∧
      forall kn path, (kn, path) ∈ visits <-> Exists fun level : Nat =>
        Within depth level ∧ Headed memory children [] top level kn path
  once : (lines.filterMap LsLine.shownOf).Nodup
  shown : forall kn, kn ∈ lines.filterMap LsLine.shownOf <-> Exists fun level : Nat =>
    Within depth level ∧ Below children top (level + 1) kn

namespace Hierarchy

/-- A directory below has a heading. -/
theorem exists_headed (hierarchy : Hierarchy memory children top) {level : Nat}
    (reached : Below children top level kn) (readable : memory.nodes.read kn = some cell)
    (directory : cell.isDir = true) :
    Exists fun path : PyString => Headed memory children [] top level kn path := by
  induction reached generalizing cell with
  | top => exact ⟨_, .top readable directory⟩
  | child above listed inductionHypothesis =>
      rcases (hierarchy.of_below above).directory_of_mem listed with ⟨upper, found, inner⟩
      rcases inductionHypothesis found inner with ⟨path, headed⟩
      exact ⟨_, .child headed listed readable directory⟩

/-- The nodes that are shown are the children of the directory. -/
theorem shown_visitLines (hierarchy : Hierarchy memory children top) (path : PyString) :
    ((visitLines memory sort children (top, path)).filterMap LsLine.shownOf).Perm (children top) := by
  have entries : ((arranged sort (withCells memory (children top))).map
      fun child => LsLine.entry child.1 child.2).filterMap LsLine.shownOf =
        (arranged sort (withCells memory (children top))).map Prod.fst := by
    rw [List.filterMap_map]
    exact congrFun List.filterMap_eq_map _
  have all := (arranged_perm sort (withCells memory (children top))).map Prod.fst
  rw [map_fst_withCells fun kn member => hierarchy.readable member] at all
  rw [visitLines, List.filterMap_append, List.filterMap_cons, entries]
  change ((arranged sort (withCells memory (children top))).map Prod.fst ++ []).Perm _
  rw [List.append_nil]
  exact all

end Hierarchy

theorem heading_visitLines (visit : Nat × PyString) :
    (visitLines memory sort children visit).filterMap LsLine.headingOf = [visit.2] := by
  have entries : ((arranged sort (withCells memory (children visit.1))).map
      fun child => LsLine.entry child.1 child.2).filterMap LsLine.headingOf = [] := by
    rw [List.filterMap_map]
    exact List.filterMap_eq_nil_iff.mpr fun _ _ => rfl
  rw [visitLines, List.filterMap_append, List.filterMap_cons, entries]
  rfl

/-- The command prints the columns before the listing. -/
theorem commandLs_settles {depth : Int} {lines : List LsLine}
    (readable : memory.nodes.read top = some cell) (directory : cell.isDir = true)
    (settled : Settles (fun fuel => lsDir memory sort fuel depth top []) ⟨lines, .completed⟩) :
    Settles (fun fuel => commandLs memory sort fuel depth top) ⟨.columns :: lines, .completed⟩ := by
  have printed := settled.map fun run : Run LsLine KernfsError =>
    (⟨.columns :: run.events, run.ending.map .kernfs⟩ : Run LsLine LsError)
  simpa only [commandLs, KernfsMemory.node_ok readable, directory, if_true, Ending.map] using printed

/-- A heading is found with its directory. -/
theorem heading_mem (sort : Bool) {visits : List (Nat × PyString)} {path : PyString} :
    LsLine.heading path ∈ visits.flatMap (visitLines memory sort children) <->
      Exists fun kn : Nat => (kn, path) ∈ visits := by
  have inLines : forall visit : Nat × PyString,
      LsLine.heading path ∈ visitLines memory sort children visit <-> path = visit.2 := by
    intro visit
    have only : path ∈ (visitLines memory sort children visit).filterMap LsLine.headingOf <->
        path ∈ [visit.2] := by
      rw [heading_visitLines]
    rw [List.mem_singleton, List.mem_filterMap] at only
    refine Iff.trans ⟨fun member => ⟨_, member, rfl⟩, ?_⟩ only
    rintro ⟨line, member, headed⟩
    cases line <;> cases headed
    exact member
  rw [List.mem_flatMap]
  constructor
  · rintro ⟨visit, member, here⟩
    rw [(inLines visit).mp here]
    exact ⟨visit.1, member⟩
  · rintro ⟨kn, member⟩
    exact ⟨(kn, path), member, (inLines (kn, path)).mpr rfl⟩

/-- The names under a heading, each with a slash before it. -/
theorem Headed.named {level : Nat} {path : PyString} (hierarchy : Hierarchy memory children top)
    (null : memory.nodes.read 0 = none) (readable : memory.nodes.read top = some cell)
    (root : cell.parent = 0) (headed : Headed memory children [] top level kn path) :
    Exists fun names : List PyString => memory.Named top kn names ∧ names.length = level ∧
      path = cell.name ++ names.flatMap (List.cons '/') ++ ['/'] := by
  induction headed with
  | top found directory =>
      cases readable.symm.trans found
      exact ⟨[], .root readable root, rfl, by rw [List.nil_append, List.flatMap_nil, List.append_nil]⟩
  | @child level above kn path last upper listed found directory inductionHypothesis =>
      rcases inductionHypothesis with ⟨names, inside, count, shape⟩
      have parent := (hierarchy.tree.of_below upper.descends).named listed
      rw [parentOf, found] at parent
      have present : above ≠ 0 := by
        rintro rfl
        rcases inside.readable with ⟨_, impossible⟩
        rw [null] at impossible
        cases impossible
      refine ⟨names ++ [last.name], .child inside found (Option.some.inj parent) present, ?_, ?_⟩
      · rw [List.length_append, count, List.length_singleton]
      · rw [shape, List.flatMap_append, List.flatMap_cons, List.flatMap_nil]
        simp only [List.append_assoc, List.cons_append, List.nil_append]

/-- A path of at least one name is its names, each with a slash before it. -/
theorem pathText_eq_flatMap {names : List PyString} (nonempty : names ≠ []) :
    KernfsMemory.pathText names = names.flatMap (List.cons '/') := by
  induction names with
  | nil => exact False.elim (nonempty rfl)
  | cons name rest inductionHypothesis =>
      cases rest with
      | nil =>
          rw [KernfsMemory.pathText, List.intercalate_singleton, List.flatMap_cons, List.flatMap_nil,
            List.append_nil]
      | cons next rest =>
          rw [KernfsMemory.pathText, List.intercalate_cons_cons, List.flatMap_cons,
            ← inductionHypothesis (List.cons_ne_nil _ _), KernfsMemory.pathText]
          simp only [List.append_assoc, List.cons_append, List.nil_append]

/-- The heading of a directory below a root ends in its path. -/
theorem Headed.path {level : Nat} {path : PyString} (hierarchy : Hierarchy memory children top)
    (null : memory.nodes.read 0 = none) (readable : memory.nodes.read top = some cell)
    (root : cell.parent = 0) (headed : Headed memory children [] top level kn path) :
    Exists fun text : PyString =>
      Settles (fun fuel => memory.pathFromNode fuel kn) (.ok text) ∧
        path = cell.name ++ text ++ (if kn = top then [] else ['/']) := by
  rcases headed.named hierarchy null readable root with ⟨names, inside, count, shape⟩
  refine ⟨KernfsMemory.pathText names, inside.path, ?_⟩
  cases level with
  | zero =>
      rw [List.length_eq_zero_iff.mp count, List.flatMap_nil, List.append_nil] at shape
      rw [shape, if_pos headed.descends.eq_top, List.append_nil, List.length_eq_zero_iff.mp count]
      rfl
  | succ level =>
      have nonempty : names ≠ [] := List.ne_nil_of_length_eq_add_one count
      have other : kn ≠ top := by
        rintro rfl
        exact hierarchy.tree.not_below_self headed.descends
      rw [shape, if_neg other, pathText_eq_flatMap nonempty]

end Commands
end CrashPython

import CrashPython.Library.Generator
import CrashPython.Util.DecodeFlags
import CrashPython.Util.Offsetof

namespace CrashPython
namespace Subsystem

open Library Types Util

/-!
# Paths of mounted file systems

`d_path` of `crash/subsystem/filesystem/mount.py` finds the path of a dentry in a mount.  It
climbs the dentries up to the root of the mount, goes on from the mountpoint in the parent
mount, and so on, until it is at the given root or at the top of the mount tree.

Three variables of the loop belong together: a mount, the `struct vfsmount` of it, and a
dentry.  Since Linux 3.3 the `struct vfsmount` is a member of `struct mount`.  Before that the
two were the same.

The path that `d_path` should return is defined by recursion on the mount tree, with the part
inside of one file system by recursion on the dentries, and without any pointers.

`mount_flags` shows the flags of a mount.  Its two tables of names let the flags be read off
again.
-/

/-! ## The code -/

/-- A value that describes a structure in memory: the structure, or a pointer to it. -/
inductive StructValue where
  | object (address : Nat)
  | pointer (address : Nat)
deriving DecidableEq, Repr

/-- The pointer that `d_path` goes on with, `value.address` unless it is one already. -/
def StructValue.target : StructValue -> Nat
  | .object address => address
  | .pointer address => address

/-- The type of a mount that is given to `d_path`: `types.mount_type`, or `struct vfsmount`. -/
inductive MountKind where
  | mount
  | vfsmount
deriving DecidableEq, Repr

/-- A mount as it is given to `d_path`. -/
structure MountValue where
  kind : MountKind
  value : StructValue
deriving DecidableEq, Repr

/-- A `struct path`. -/
structure PathValue where
  mnt : Except GdbError Nat
  dentry : Except GdbError Nat

/-- The memory that `d_path` reads.  Without an offset, `struct mount` does not exist. -/
structure FsMemory where
  mntOffset : Option Nat
  dParent : Nat -> Except GdbError Nat
  dName : Nat -> Except GdbError PyString
  mntRoot : Nat -> Except GdbError Nat
  mntParent : Nat -> Except GdbError Nat
  mntMountpoint : Nat -> Except GdbError Nat
  initFsRoot : Option PathValue

/-- The local variables of the loop in `d_path`. -/
structure PathWalk where
  mount : Nat
  mnt : Nat
  dentry : Nat
  name : PyString := []
deriving DecidableEq, Repr

namespace FsMemory

variable (fs : FsMemory)

/-- `mount['mnt'].address`, or the mount itself if there is no such member. -/
def vfsmountOf (mount : Nat) : Nat :=
  match fs.mntOffset with
  | none => mount
  | some offset => pointerOf (mount + offset)

/-- `_real_mount`, which ends in `container_of` for a `struct vfsmount` in a `struct mount`. -/
def realMount (mnt : MountValue) : Nat :=
  match mnt.kind, fs.mntOffset with
  | .vfsmount, some offset => pointerOf (mnt.value.target - offset)
  | _, _ => mnt.value.target

/-- The `struct vfsmount` of the given mount. -/
def givenVfsmount (mnt : MountValue) : Nat :=
  match mnt.kind with
  | .mount => fs.vfsmountOf mnt.value.target
  | .vfsmount => mnt.value.target

/-- The loop is at the root it was given. -/
def atRoot (root : PathValue) (walk : PathWalk) : Except GdbError Bool := do
  let dentry <- root.dentry
  if walk.dentry ≠ dentry then return false
  let mnt <- root.mnt
  return walk.mnt = mnt

/-- The loop is at the root of a mount, or at that of a file system. -/
def atMountRoot (walk : PathWalk) : Except GdbError Bool := do
  let mntRoot <- fs.mntRoot walk.mnt
  if walk.dentry = mntRoot then return true
  let parent <- fs.dParent walk.dentry
  return walk.dentry = parent

/-- One iteration of the loop in `d_path`, or nothing if the loop ends. -/
def walkStep (root : PathValue) (walk : PathWalk) : Except GdbError (Option PathWalk) := do
  if (<- atRoot root walk) then return none
  if (<- fs.atMountRoot walk) then
    let parent <- fs.mntParent walk.mount
    if walk.mount ≠ parent then
      let mountpoint <- fs.mntMountpoint walk.mount
      return some { walk with dentry := mountpoint, mount := parent, mnt := fs.vfsmountOf parent }
    return none
  let text <- fs.dName walk.dentry
  let parent <- fs.dParent walk.dentry
  return some { walk with name := '/' :: text ++ walk.name, dentry := parent }

/-- The loop in `d_path`. -/
def walkUp (root : PathValue) : Nat -> PathWalk -> Option (Except GdbError PyString)
  | 0, _ => none
  | fuel + 1, walk =>
      match fs.walkStep root walk with
      | .error error => some (.error error)
      | .ok none => some (.ok walk.name)
      | .ok (some next) => walkUp root fuel next

/-- `d_path`. -/
def dPath (fuel : Nat) (mnt : MountValue) (dentry : StructValue) (root : Option PathValue) :
    Option (Except UtilError PyString) :=
  match root.orElse fun _ => fs.initFsRoot with
  | none => some (.error .attributeError)
  | some root =>
      let start : PathWalk := ⟨fs.realMount mnt, fs.givenVfsmount mnt, dentry.target, []⟩
      (fs.walkUp root fuel start).map fun result =>
        (result.mapError UtilError.gdb).map fun name => if name = [] then ['/'] else name

end FsMemory

/-! ## Mount trees -/

/-- A dentry with all dentries above it.  The root of a file system has no name of its own. -/
inductive Dentry where
  | root (address : Nat)
  | child (address : Nat) (name : PyString) (named : name ≠ []) (parent : Dentry)

/-- A mount with all mounts above it.  Any mount but the one at the top is attached at a
dentry of its parent. -/
inductive Mount where
  | top (address : Nat) (root : Dentry)
  | attached (address : Nat) (root mountpoint : Dentry) (parent : Mount)

/-- A place in the mount tree. -/
structure FsPath where
  mount : Nat
  dentry : Nat
  mount_lt : mount < 2 ^ 64

namespace Dentry

def address : Dentry -> Nat
  | .root address => address
  | .child address _ _ _ => address

/-- The memory holds the dentries.  Only the root is its own parent. -/
def Stored (fs : FsMemory) : Dentry -> Prop
  | .root address => fs.dParent address = .ok address
  | .child address name _ parent =>
      address ≠ parent.address ∧ fs.dName address = .ok name ∧
        fs.dParent address = .ok parent.address ∧ parent.Stored fs

/-- The path from a root down to the dentry, where `above` is the path of the root of the
mount. -/
def pathBelow (stop mountRoot : Nat -> Prop) [DecidablePred stop] [DecidablePred mountRoot]
    (above : PyString) : Dentry -> PyString
  | .root address => if stop address then [] else above
  | .child address name _ parent =>
      if stop address then []
      else if mountRoot address then above
      else parent.pathBelow stop mountRoot above ++ '/' :: name

end Dentry

namespace Mount

def address : Mount -> Nat
  | .top address _ => address
  | .attached address _ _ _ => address

def root : Mount -> Dentry
  | .top _ root => root
  | .attached _ root _ _ => root

/-- The memory holds the mounts.  Only the one at the top is its own parent. -/
def Stored (fs : FsMemory) : Mount -> Prop
  | .top address root =>
      address < 2 ^ 64 ∧ fs.mntRoot (fs.vfsmountOf address) = .ok root.address ∧
        fs.mntParent address = .ok address
  | .attached address root mountpoint parent =>
      address < 2 ^ 64 ∧ fs.mntRoot (fs.vfsmountOf address) = .ok root.address ∧
        address ≠ parent.address ∧ fs.mntParent address = .ok parent.address ∧
        fs.mntMountpoint address = .ok mountpoint.address ∧ mountpoint.Stored fs ∧
        parent.Stored fs

/-- The names that are crossed from the stop point down to a dentry in the mount.  The root
of a mount adds nothing to the path of its mountpoint. -/
def crossed (root : FsPath) : Mount -> Dentry -> PyString
  | .top address mountRoot, dentry =>
      dentry.pathBelow (fun place => root.mount = address ∧ root.dentry = place)
        (fun place => place = mountRoot.address) []
  | .attached address mountRoot mountpoint parent, dentry =>
      dentry.pathBelow (fun place => root.mount = address ∧ root.dentry = place)
        (fun place => place = mountRoot.address) (parent.crossed root mountpoint)

end Mount

/-- The path of a dentry in a mount, as seen from a root. -/
def referencePath (root : FsPath) (mount : Mount) (dentry : Dentry) : PyString :=
  if mount.crossed root dentry = [] then ['/'] else mount.crossed root dentry

/-! ## The given values -/

/-- A value describes a mount by its address, or by the address of its `struct vfsmount`. -/
def MountValue.Describes (fs : FsMemory) (mnt : MountValue) (mount : Mount) : Prop :=
  match mnt.kind with
  | .mount => mnt.value.target = mount.address
  | .vfsmount => mnt.value.target = fs.vfsmountOf mount.address

/-- The `struct path` of a place. -/
def FsPath.value (fs : FsMemory) (root : FsPath) : PathValue :=
  ⟨.ok (fs.vfsmountOf root.mount), .ok root.dentry⟩

theorem Mount.Stored.address_lt {fs : FsMemory} {mount : Mount} (stored : mount.Stored fs) :
    mount.address < 2 ^ 64 := by
  cases mount with
  | top address root => exact stored.1
  | attached address root mountpoint parent => exact stored.1

section Values

variable {fs : FsMemory} {mnt : MountValue} {mount : Mount}

/-- Two mounts do not have the same `struct vfsmount`. -/
theorem vfsmountOf_inj {first second : Nat} (one : first < 2 ^ 64) (two : second < 2 ^ 64) :
    fs.vfsmountOf first = fs.vfsmountOf second <-> first = second := by
  constructor
  · intro same
    simp only [FsMemory.vfsmountOf] at same
    cases layout : fs.mntOffset with
    | none =>
        simp only [layout] at same
        exact same
    | some offset =>
        simp only [layout, pointerOf] at same
        omega
  · exact congrArg fs.vfsmountOf

/-- The mount is found from its `struct vfsmount`. -/
theorem realMount_eq (describes : mnt.Describes fs mount) (small : mount.address < 2 ^ 64) :
    fs.realMount mnt = mount.address := by
  simp only [MountValue.Describes] at describes
  simp only [FsMemory.realMount]
  cases kind : mnt.kind with
  | mount =>
      simp only [kind] at describes
      exact describes
  | vfsmount =>
      simp only [kind, FsMemory.vfsmountOf] at describes
      cases layout : fs.mntOffset with
      | none =>
          simp only [layout] at describes
          exact describes
      | some offset =>
          simp only [layout] at describes
          simp only [describes]
          exact pointerOf_sub small offset

theorem givenVfsmount_eq (describes : mnt.Describes fs mount) :
    fs.givenVfsmount mnt = fs.vfsmountOf mount.address := by
  simp only [MountValue.Describes] at describes
  simp only [FsMemory.givenVfsmount]
  cases kind : mnt.kind with
  | mount =>
      simp only [kind] at describes
      exact congrArg fs.vfsmountOf describes
  | vfsmount =>
      simp only [kind] at describes
      exact describes

end Values

/-! ## One iteration -/

/-- The loop, with its three variables in step. -/
def FsMemory.walkAt (fs : FsMemory) (mount dentry : Nat) (name : PyString) : PathWalk :=
  ⟨mount, fs.vfsmountOf mount, dentry, name⟩

section Steps

variable {fs : FsMemory} {root : FsPath} {mount dentry : Nat} {name : PyString}

theorem atRoot_walkAt (small : mount < 2 ^ 64) :
    FsMemory.atRoot (root.value fs) (fs.walkAt mount dentry name) =
      .ok (decide (root.mount = mount ∧ root.dentry = dentry)) := by
  have mounts : fs.vfsmountOf mount = fs.vfsmountOf root.mount <-> root.mount = mount := by
    rw [vfsmountOf_inj small root.mount_lt, eq_comm]
  change (if dentry ≠ root.dentry then Except.ok false
    else .ok (decide (fs.vfsmountOf mount = fs.vfsmountOf root.mount))) = _
  by_cases same : root.dentry = dentry
  · simp [same, mounts]
  · simp [same, Ne.symm same]

theorem atMountRoot_walkAt {mntRoot parent : Nat}
    (rooted : fs.mntRoot (fs.vfsmountOf mount) = .ok mntRoot) (up : fs.dParent dentry = .ok parent) :
    fs.atMountRoot (fs.walkAt mount dentry name) = .ok (decide (dentry = mntRoot ∨ dentry = parent)) := by
  simp only [FsMemory.atMountRoot, FsMemory.walkAt]
  simp only [rooted, up]
  change (if dentry = mntRoot then Except.ok true else .ok (decide (dentry = parent))) = _
  by_cases same : dentry = mntRoot
  · simp [same]
  · simp [same]

variable (name)

theorem walkUp_root (small : mount < 2 ^ 64) (here : root.mount = mount ∧ root.dentry = dentry)
    (fuel : Nat) :
    fs.walkUp (root.value fs) (fuel + 1) (fs.walkAt mount dentry name) = some (.ok name) := by
  rw [FsMemory.walkUp, FsMemory.walkStep, atRoot_walkAt small, decide_eq_true here]
  rfl

theorem walkUp_top (small : mount < 2 ^ 64) (elsewhere : ¬ (root.mount = mount ∧ root.dentry = dentry))
    (leaves : fs.atMountRoot (fs.walkAt mount dentry name) = .ok true)
    (top : fs.mntParent mount = .ok mount) (fuel : Nat) :
    fs.walkUp (root.value fs) (fuel + 1) (fs.walkAt mount dentry name) = some (.ok name) := by
  have own : fs.mntParent (fs.walkAt mount dentry name).mount = .ok mount := top
  rw [FsMemory.walkUp, FsMemory.walkStep, atRoot_walkAt small, decide_eq_false elsewhere, leaves, own]
  simp [FsMemory.walkAt, bind, Except.bind, pure, Except.pure]

theorem walkUp_mountpoint {parent mountpoint : Nat} (small : mount < 2 ^ 64)
    (elsewhere : ¬ (root.mount = mount ∧ root.dentry = dentry))
    (leaves : fs.atMountRoot (fs.walkAt mount dentry name) = .ok true)
    (different : mount ≠ parent) (up : fs.mntParent mount = .ok parent)
    (attached : fs.mntMountpoint mount = .ok mountpoint) (fuel : Nat) :
    fs.walkUp (root.value fs) (fuel + 1) (fs.walkAt mount dentry name) =
      fs.walkUp (root.value fs) fuel (fs.walkAt parent mountpoint name) := by
  rw [FsMemory.walkUp, FsMemory.walkStep, atRoot_walkAt small, decide_eq_false elsewhere, leaves]
  simp [FsMemory.walkAt, bind, Except.bind, pure, Except.pure, up, attached, different]

theorem walkUp_parent {parent : Nat} {text : PyString} (small : mount < 2 ^ 64)
    (elsewhere : ¬ (root.mount = mount ∧ root.dentry = dentry))
    (stays : fs.atMountRoot (fs.walkAt mount dentry name) = .ok false)
    (named : fs.dName dentry = .ok text) (up : fs.dParent dentry = .ok parent) (fuel : Nat) :
    fs.walkUp (root.value fs) (fuel + 1) (fs.walkAt mount dentry name) =
      fs.walkUp (root.value fs) fuel (fs.walkAt mount parent ('/' :: text ++ name)) := by
  rw [FsMemory.walkUp, FsMemory.walkStep, atRoot_walkAt small, decide_eq_false elsewhere, stays]
  simp [FsMemory.walkAt, bind, Except.bind, pure, Except.pure, named, up]

end Steps

/-! ## The whole climb -/

section Climbs

variable {fs : FsMemory} (root : FsPath)

/-- From a dentry in a mount the loop arrives at this path, in front of what it has. -/
def FsMemory.Climbs (fs : FsMemory) (root : FsPath) (mount dentry : Nat) (path : PyString) : Prop :=
  forall name : PyString, Settles (fun fuel => fs.walkUp (root.value fs) fuel (fs.walkAt mount dentry name))
    (.ok (path ++ name))

/-- At the root of a mount, the loop has yet to find the path `above`. -/
def FsMemory.Leaves (fs : FsMemory) (root : FsPath) (mount : Nat) (above : PyString) : Prop :=
  forall (dentry : Nat) (name : PyString), ¬ (root.mount = mount ∧ root.dentry = dentry) ->
    fs.atMountRoot (fs.walkAt mount dentry name) = .ok true ->
      Settles (fun fuel => fs.walkUp (root.value fs) fuel (fs.walkAt mount dentry name)) (.ok (above ++ name))

variable {root}

theorem leaves_top {mount : Nat} (small : mount < 2 ^ 64) (top : fs.mntParent mount = .ok mount) :
    fs.Leaves root mount [] := by
  intro dentry name elsewhere leaves
  exact Settles.now (walkUp_top name small elsewhere leaves top)

theorem leaves_attached {mount parent mountpoint : Nat} {above : PyString} (small : mount < 2 ^ 64)
    (different : mount ≠ parent) (up : fs.mntParent mount = .ok parent)
    (attached : fs.mntMountpoint mount = .ok mountpoint)
    (climbs : fs.Climbs root parent mountpoint above) : fs.Leaves root mount above := by
  intro dentry name elsewhere leaves
  exact (climbs name).later (walkUp_mountpoint name small elsewhere leaves different up attached)

/-- The climb inside of one file system. -/
theorem climbs_dentry {mount mountRoot : Nat} {above : PyString} (small : mount < 2 ^ 64)
    (rooted : fs.mntRoot (fs.vfsmountOf mount) = .ok mountRoot) (leaves : fs.Leaves root mount above)
    (dentry : Dentry) (stored : dentry.Stored fs) :
    fs.Climbs root mount dentry.address
      (dentry.pathBelow (fun place => root.mount = mount ∧ root.dentry = place)
        (fun place => place = mountRoot) above) := by
  induction dentry with
  | root address =>
      intro name
      rw [Dentry.pathBelow]
      by_cases here : root.mount = mount ∧ root.dentry = address
      · rw [if_pos here]
        exact Settles.now (walkUp_root name small here)
      · rw [if_neg here]
        apply leaves address name here
        rw [atMountRoot_walkAt rooted stored, decide_eq_true (Or.inr rfl)]
  | child address text named parent inductionHypothesis =>
      rcases stored with ⟨different, called, up, above⟩
      intro name
      rw [Dentry.pathBelow]
      by_cases here : root.mount = mount ∧ root.dentry = address
      · rw [if_pos here]
        exact Settles.now (walkUp_root name small here)
      · have decided := @atMountRoot_walkAt fs mount address name mountRoot parent.address rooted up
        rw [if_neg here]
        by_cases atTop : address = mountRoot
        · rw [if_pos atTop]
          rw [decide_eq_true (Or.inl atTop)] at decided
          exact leaves address name here decided
        · rw [if_neg atTop]
          rw [decide_eq_false (not_or.mpr ⟨atTop, different⟩)] at decided
          have further := inductionHypothesis above ('/' :: text ++ name)
          rw [← List.append_assoc] at further
          exact further.later (walkUp_parent name small here decided called up)

/-- The climb through all mounts above one. -/
theorem climbs_mount (mount : Mount) (mounted : mount.Stored fs) (dentry : Dentry)
    (stored : dentry.Stored fs) : fs.Climbs root mount.address dentry.address (mount.crossed root dentry) := by
  induction mount generalizing dentry with
  | top address mountRoot =>
      rcases mounted with ⟨small, rooted, top⟩
      exact climbs_dentry small rooted (leaves_top small top) dentry stored
  | attached address mountRoot mountpoint parent inductionHypothesis =>
      rcases mounted with ⟨small, rooted, different, up, attached, mountpointStored, parentMounted⟩
      have climbs := inductionHypothesis parentMounted mountpoint mountpointStored
      exact climbs_dentry small rooted (leaves_attached small different up attached climbs) dentry stored

end Climbs

/-! ## The result -/

/-- `d_path` ends with this path, for all values that describe the mount and the dentry. -/
def FsMemory.ReturnsPath (fs : FsMemory) (given : Option PathValue) (mount : Mount) (dentry : Dentry)
    (path : PyString) : Prop :=
  forall (mnt : MountValue) (value : StructValue), mnt.Describes fs mount ->
    value.target = dentry.address -> Settles (fun fuel => fs.dPath fuel mnt value given) (.ok path)

/-- The root is the given one, or else that of the initial task. -/
def FsMemory.SeenFrom (fs : FsMemory) (given : Option PathValue) (root : FsPath) : Prop :=
  (given.orElse fun _ => fs.initFsRoot) = some (root.value fs)

section Results

variable {fs : FsMemory} {given : Option PathValue} {root : FsPath} {mount : Mount}

theorem returnsPath_referencePath (seen : fs.SeenFrom given root) (mounted : mount.Stored fs)
    (dentry : Dentry) (stored : dentry.Stored fs) :
    fs.ReturnsPath given mount dentry (referencePath root mount dentry) := by
  intro mnt value describes same
  have climbs : fs.Climbs root mount.address dentry.address (mount.crossed root dentry) :=
    climbs_mount mount mounted dentry stored
  have settled := (climbs []).map fun result =>
    (result.mapError UtilError.gdb).map fun name => if name = [] then ['/'] else name
  rw [List.append_nil] at settled
  simp only [FsMemory.dPath]
  rw [seen]
  simp only [realMount_eq describes mounted.address_lt, givenVfsmount_eq describes, same]
  exact settled

/-- In one mount, all dentries share the path of its root. -/
theorem Mount.crossed_eq (root : FsPath) (mount : Mount) :
    Exists fun above : PyString => forall dentry : Dentry, mount.crossed root dentry =
      dentry.pathBelow (fun place => root.mount = mount.address ∧ root.dentry = place)
        (fun place => place = mount.root.address) above := by
  cases mount with
  | top address mountRoot => exact ⟨_, fun _ => rfl⟩
  | attached address mountRoot mountpoint parent => exact ⟨_, fun _ => rfl⟩

/-- A dentry that is neither the root of its mount nor the one at which the climb stops. -/
theorem crossed_child {address : Nat} {name : PyString} {named : name ≠ []} {parent : Dentry}
    (below : address ≠ mount.root.address)
    (elsewhere : ¬ (root.mount = mount.address ∧ root.dentry = address)) :
    mount.crossed root (.child address name named parent) = mount.crossed root parent ++ '/' :: name := by
  rcases mount.crossed_eq root with ⟨above, shape⟩
  rw [shape, shape, Dentry.pathBelow, if_neg elsewhere, if_neg below]

/-- A name follows each slash. -/
theorem pathBelow_ne_slash {stop mountRoot : Nat -> Prop} [DecidablePred stop]
    [DecidablePred mountRoot] {above : PyString} (further : above ≠ ['/']) (dentry : Dentry) :
    dentry.pathBelow stop mountRoot above ≠ ['/'] := by
  cases dentry with
  | root address =>
      rw [Dentry.pathBelow]
      split
      · exact (List.cons_ne_nil _ _).symm
      · exact further
  | child address name named parent =>
      rw [Dentry.pathBelow]
      split
      · exact (List.cons_ne_nil _ _).symm
      · split
        · exact further
        · intro same
          have length := congrArg List.length same
          have positive := List.length_pos_iff.mpr named
          simp only [List.length_append, List.length_cons, List.length_nil] at length
          omega

theorem crossed_ne_slash (root : FsPath) (mount : Mount) (dentry : Dentry) :
    mount.crossed root dentry ≠ ['/'] := by
  induction mount generalizing dentry with
  | top address mountRoot => exact pathBelow_ne_slash (List.cons_ne_nil _ _).symm dentry
  | attached address mountRoot mountpoint parent inductionHypothesis =>
      exact pathBelow_ne_slash (inductionHypothesis mountpoint) dentry

/-- The names that were crossed can be read off the path. -/
theorem crossed_of_referencePath (root : FsPath) (mount : Mount) (dentry : Dentry) :
    (if referencePath root mount dentry = ['/'] then [] else referencePath root mount dentry) =
      mount.crossed root dentry := by
  unfold referencePath
  by_cases nothing : mount.crossed root dentry = []
  · rw [if_pos nothing, if_pos rfl, nothing]
  · rw [if_neg nothing, if_neg (crossed_ne_slash root mount dentry)]

/-- `d_path` returns the path by recursion on the mount tree, whatever is mounted where, and
from any root.  A dentry inside of a mount has the path of its parent, a slash and its name. -/
theorem dPath_meets_reference (fs : FsMemory) (given : Option PathValue) (root : FsPath) (mount : Mount)
    (dentry : Dentry) (seen : fs.SeenFrom given root) (mounted : mount.Stored fs)
    (stored : dentry.Stored fs) :
    fs.ReturnsPath given mount dentry (referencePath root mount dentry) ∧
      forall (address : Nat) (name : PyString) (named : name ≠ []) (parent : Dentry),
        dentry = .child address name named parent -> address ≠ mount.root.address ->
          ¬ (root.mount = mount.address ∧ root.dentry = address) ->
            Exists fun parentPath : PyString => fs.ReturnsPath given mount parent parentPath ∧
              fs.ReturnsPath given mount dentry
                ((if parentPath = ['/'] then [] else parentPath) ++ '/' :: name) := by
  have returns := returnsPath_referencePath seen mounted dentry stored
  refine ⟨returns, ?_⟩
  rintro address name named parent rfl below elsewhere
  have child : referencePath root mount (.child address name named parent) =
      mount.crossed root parent ++ '/' :: name := by
    have slash : mount.crossed root parent ++ '/' :: name ≠ [] :=
      List.append_ne_nil_of_right_ne_nil _ (List.cons_ne_nil _ _)
    rw [referencePath, crossed_child below elsewhere, if_neg slash]
  refine ⟨referencePath root mount parent, returnsPath_referencePath seen mounted parent stored.2.2.2, ?_⟩
  rw [crossed_of_referencePath, ← child]
  exact returns

/-- A file system with a dentry `home`, at which the directory `users` of another one is
mounted. -/
def homeMemory : FsMemory where
  mntOffset := some 32
  dParent
    | 16 => .ok 16
    | 17 => .ok 16
    | 48 => .ok 48
    | 49 => .ok 48
    | 50 => .ok 49
    | _ => .error .memoryError
  dName
    | 17 => .ok ['h', 'o', 'm', 'e']
    | 49 => .ok ['u', 's', 'e', 'r', 's']
    | 50 => .ok ['a', 'd', 'a']
    | _ => .error .memoryError
  mntRoot
    | 1032 => .ok 16
    | 2032 => .ok 49
    | _ => .error .memoryError
  mntParent
    | 1000 => .ok 1000
    | 2000 => .ok 1000
    | _ => .error .memoryError
  mntMountpoint
    | 2000 => .ok 17
    | _ => .error .memoryError
  initFsRoot := some ⟨.ok 1032, .ok 16⟩

def usersDentry : Dentry :=
  .child 49 ['u', 's', 'e', 'r', 's'] (List.cons_ne_nil _ _) (.root 48)

def adaDentry : Dentry :=
  .child 50 ['a', 'd', 'a'] (List.cons_ne_nil _ _) usersDentry

def usersMount : Mount :=
  .attached 2000 usersDentry (.child 17 ['h', 'o', 'm', 'e'] (List.cons_ne_nil _ _) (.root 16))
    (.top 1000 (.root 16))

theorem usersMount_stored : usersMount.Stored homeMemory :=
  ⟨by decide, rfl, by decide, rfl, rfl, ⟨by decide, rfl, rfl, rfl⟩, by decide, rfl, rfl⟩

theorem adaDentry_stored : adaDentry.Stored homeMemory :=
  ⟨by decide, rfl, rfl, by decide, rfl, rfl, rfl⟩

/-- The path in the mounted directory goes on from `home`, and `users` is not in it. -/
theorem dPath_meets_reference_users :
    homeMemory.ReturnsPath none usersMount adaDentry ['/', 'h', 'o', 'm', 'e', '/', 'a', 'd', 'a'] :=
  (dPath_meets_reference homeMemory none ⟨1000, 16, by decide⟩ usersMount adaDentry rfl usersMount_stored
    adaDentry_stored).1

/-- The mount may also be given by a pointer to its `struct vfsmount`. -/
example : homeMemory.dPath 5 ⟨.vfsmount, .pointer 2032⟩ (.object 50) none =
    some (.ok ['/', 'h', 'o', 'm', 'e', '/', 'a', 'd', 'a']) :=
  rfl

end Results

/-! ## The trees in a memory

A memory with finite chains of parents holds a tree above each of its dentries and mounts, and
only one. -/

section Memory

variable {fs : FsMemory}

/-- Sets of dentries and mounts in a memory that are closed under parents.  A parent is less
deep, unless something is its own parent. -/
structure WellFormed (fs : FsMemory) (dentries mounts : Nat -> Prop) (depth : Nat -> Nat) : Prop where
  dParent : forall dentry, dentries dentry -> Exists fun parent : Nat =>
    fs.dParent dentry = .ok parent ∧ dentries parent ∧ (dentry ≠ parent -> depth parent < depth dentry)
  dName : forall dentry, dentries dentry -> fs.dParent dentry ≠ .ok dentry ->
    Exists fun name : PyString => fs.dName dentry = .ok name ∧ name ≠ []
  mount_lt : forall mount, mounts mount -> mount < 2 ^ 64
  mntRoot : forall mount, mounts mount -> Exists fun root : Nat =>
    fs.mntRoot (fs.vfsmountOf mount) = .ok root ∧ dentries root
  mntParent : forall mount, mounts mount -> Exists fun parent : Nat =>
    fs.mntParent mount = .ok parent ∧ mounts parent ∧ (mount ≠ parent -> depth parent < depth mount)
  mntMountpoint : forall mount, mounts mount -> fs.mntParent mount ≠ .ok mount ->
    Exists fun mountpoint : Nat => fs.mntMountpoint mount = .ok mountpoint ∧ dentries mountpoint

variable {dentries mounts : Nat -> Prop} {depth : Nat -> Nat}

theorem WellFormed.exists_dentry (wellFormed : WellFormed fs dentries mounts depth) (address : Nat)
    (listed : dentries address) :
    Exists fun dentry : Dentry => dentry.address = address ∧ dentry.Stored fs := by
  induction bound : depth address using Nat.strong_induction_on generalizing address with
  | h level inductionHypothesis =>
      rcases wellFormed.dParent address listed with ⟨parent, up, parentListed, shallower⟩
      by_cases own : address = parent
      · rw [← own] at up
        exact ⟨.root address, rfl, up⟩
      · have other : fs.dParent address ≠ .ok address := by
          rw [up]
          exact fun same => own (Except.ok.inj same).symm
        rcases wellFormed.dName address listed other with ⟨name, called, named⟩
        rcases inductionHypothesis _ (bound ▸ shallower own) parent parentListed rfl with
          ⟨above, rfl, aboveStored⟩
        exact ⟨.child address name named above, rfl, own, called, up, aboveStored⟩

theorem WellFormed.exists_mount (wellFormed : WellFormed fs dentries mounts depth) (address : Nat)
    (listed : mounts address) :
    Exists fun mount : Mount => mount.address = address ∧ mount.Stored fs := by
  induction bound : depth address using Nat.strong_induction_on generalizing address with
  | h level inductionHypothesis =>
      have small := wellFormed.mount_lt address listed
      rcases wellFormed.mntRoot address listed with ⟨rootAddress, rooted, rootListed⟩
      rcases wellFormed.exists_dentry rootAddress rootListed with ⟨root, rfl, _⟩
      rcases wellFormed.mntParent address listed with ⟨parent, up, parentListed, shallower⟩
      by_cases own : address = parent
      · rw [← own] at up
        exact ⟨.top address root, rfl, small, rooted, up⟩
      · have other : fs.mntParent address ≠ .ok address := by
          rw [up]
          exact fun same => own (Except.ok.inj same).symm
        rcases wellFormed.mntMountpoint address listed other with ⟨place, attached, placeListed⟩
        rcases wellFormed.exists_dentry place placeListed with ⟨mountpoint, rfl, placeStored⟩
        rcases inductionHypothesis _ (bound ▸ shallower own) parent parentListed rfl with
          ⟨above, rfl, aboveMounted⟩
        exact ⟨.attached address root mountpoint above, rfl, small, rooted, own, up, attached,
          placeStored, aboveMounted⟩

/-- The dentries above an address are determined by the memory. -/
theorem Dentry.Stored.unique {first second : Dentry} (one : first.Stored fs) (two : second.Stored fs)
    (same : first.address = second.address) : first = second := by
  induction first generalizing second with
  | root address =>
      cases second with
      | root other => exact congrArg Dentry.root same
      | child other name named parent =>
          cases same
          exact False.elim (two.1 (Except.ok.inj (one.symm.trans two.2.2.1)))
  | child address name named parent inductionHypothesis =>
      cases second with
      | root other =>
          cases same
          exact False.elim (one.1 (Except.ok.inj (two.symm.trans one.2.2.1)))
      | child other text otherNamed above =>
          cases same
          have parents := Except.ok.inj (one.2.2.1.symm.trans two.2.2.1)
          cases Except.ok.inj (one.2.1.symm.trans two.2.1)
          cases inductionHypothesis one.2.2.2 two.2.2.2 parents
          rfl

end Memory

/-! ## The flags of a mount -/

/-- `MNT_FLAGS`. -/
def MNT_FLAGS : List (Nat × PyString) :=
  [(0x01, "MNT_NOSUID".toList), (0x02, "MNT_NODEV".toList), (0x04, "MNT_NOEXEC".toList),
    (0x08, "MNT_NOATIME".toList), (0x10, "MNT_NODIRATIME".toList), (0x20, "MNT_RELATIME".toList),
    (0x40, "MNT_READONLY".toList)]

/-- `MNT_FLAGS_HIDDEN`, with the others after the update. -/
def MNT_FLAGS_HIDDEN : List (Nat × PyString) :=
  [(0x100, "[MNT_SHRINKABLE]".toList), (0x200, "[MNT_WRITE_HOLD]".toList),
    (0x1000, "[MNT_SHARED]".toList), (0x2000, "[MNT_UNBINDABLE]".toList)] ++ MNT_FLAGS

/-- The table that `mount_flags` uses. -/
def shownFlags (showHidden : Bool) : List (Nat × PyString) :=
  if showHidden then MNT_FLAGS_HIDDEN else MNT_FLAGS

/-- `mount_flags`, from the `mnt_flags` of the mount. -/
def mountFlags {sizeof : Nat} (mntFlags : FlagsValue sizeof) (showHidden : Bool) : PyString :=
  decodeFlags mntFlags (FlagNames.ofList (shownFlags showHidden)) [',']

theorem goodNames_shownFlags (showHidden : Bool) : GoodNames (FlagNames.ofList (shownFlags showHidden)) := by
  cases showHidden with
  | false => exact goodNames_ofList (by decide) (by decide) (by decide)
  | true => exact goodNames_ofList (by decide) (by decide) (by decide)

/-- The flags of a mount can be read off its text, also those without a name. -/
theorem mountFlags_recovers {sizeof : Nat} (mntFlags : FlagsValue sizeof) (showHidden : Bool) :
    recoveredBits (FlagNames.ofList (shownFlags showHidden)) (sizeof * 8) [','] (mountFlags mntFlags showHidden) =
      mntFlags.setBits.map some := by
  have absent : forall entry, entry ∈ shownFlags showHidden -> ',' ∉ entry.2 := by
    cases showHidden with
    | false => decide
    | true => decide
  exact recoveredBits_decodeFlags (List.cons_ne_nil _ _) (goodNames_shownFlags showHidden)
    (separableLabels_ofList absent (by decide) (by decide) _) mntFlags

end Subsystem
end CrashPython

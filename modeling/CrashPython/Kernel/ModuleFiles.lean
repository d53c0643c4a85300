import CrashPython.Library.Assignments
import CrashPython.Library.PyString

namespace CrashPython
namespace Kernel

open Library

/-!
# The search for module files

`CrashKernel` finds the files of a module and of its debuginfo below the directories it was
given.  A file is looked up in `modules.order`, or else in the whole tree of a directory.  The
lines of `modules.order` and the files of a tree are kept once they were read.  A tree is read
for one pattern of names at a time, and the names of all patterns are kept together.

Files that do not change are found in the same place however often they are looked for, and
whatever else was looked for before.
-/

/-- What can go wrong while modules are loaded.  An error of gdb and the error that is made of
it carry a text. -/
inductive KernelError where
  | noMatchingFile (name : PyString)
  | osError
  | modVersionMismatch (path : PyString) (value : Option PyString) (expected : PyString)
  | modSourceVersionMismatch (path : PyString) (value expected : Option PyString)
  | crashKernelError (message : PyString)
  | gdbError (message : PyString)
  | other
deriving DecidableEq, Repr

/-- Why the lines of a file can not be read: an `OSError`, or bytes that are no text. -/
inductive ReadlinesError where
  | osError
  | notText
deriving DecidableEq, Repr

/-- Files that do not change.  A tree is the list of its directories with their files, in the
order of `os.walk`. -/
structure FileTree where
  pathExists : PyString -> Bool
  readlines : PyString -> Except ReadlinesError (List PyString)
  walk : PyString -> List (PyString × List PyString)

/-- A compiled pattern. -/
structure Regex where
  pattern : PyString
  accepts : PyString -> Bool

/-- What is kept of a tree: the patterns for which it was read, or nothing if it was read for
all names, and the files. -/
structure FoundTree where
  filters : Option (List PyString)
  files : PyString -> Option PyString

/-- The attributes `modules_order` and `findmap`. -/
structure SearchCache where
  modulesOrder : PyString -> Option (PyString -> Option PyString)
  findmap : PyString -> Option FoundTree

/-- The cache of a new `CrashKernel`. -/
def SearchCache.empty : SearchCache where
  modulesOrder := fun _ => none
  findmap := fun _ => none

/-- Keep the dictionary that was made of `modules.order`. -/
def SearchCache.setOrder (path : PyString) (order : PyString -> Option PyString)
    (cache : SearchCache) : SearchCache :=
  { cache with modulesOrder := Function.update cache.modulesOrder path (some order) }

/-- `os.path.join` for two parts. -/
def pathJoin (path name : PyString) : PyString :=
  if name.head? = some '/' then name
  else if path = [] ∨ path.getLast? = some '/' then path ++ name
  else path ++ '/' :: name

/-- `os.path.basename`. -/
def basename (path : PyString) : PyString :=
  path.rtakeWhile fun character => character ≠ '/'

/-- `_normalize_modname`. -/
def normalizeModname (name : PyString) : PyString :=
  PyString.replace '-' '_' name

/-- `fnmatch.translate` for a star and a suffix without special characters. -/
def suffixRegex (pattern suffix : String) : Regex where
  pattern := pattern.toList
  accepts := fun name => decide (suffix.toList <:+ name)

/-- The pattern `*.ko`. -/
def moduleRegex : Regex :=
  suffixRegex "(?s:.*\\.ko)\\Z" ".ko"

/-- The pattern `*.ko.debug`. -/
def debuginfoRegex : Regex :=
  suffixRegex "(?s:.*\\.ko\\.debug)\\Z" ".ko.debug"

/-- What was found in a dictionary, or else `_NoMatchingFileError`. -/
def orNoMatchingFile (name : PyString) : Option PyString -> Except KernelError PyString
  | some modpath => .ok modpath
  | none => .error (.noMatchingFile name)

namespace FileTree

variable (tree : FileTree)

/-- The assignments for one line of `modules.order`. -/
def orderLine (path : PyString) (order : PyString -> Option PyString) (line : PyString) :
    PyString -> Option PyString :=
  let modpath := PyString.rstrip line
  let base := normalizeModname (basename modpath)
  let modname := if base.take 7 = "kernel/".toList then base.drop 7 else base
  let modpath := pathJoin path modpath
  let compressed := modpath ++ ".zst".toList
  let order := if tree.pathExists modpath then Function.update order modname (some modpath) else order
  if tree.pathExists compressed then Function.update order modname (some compressed) else order

/-- What `_cache_modules_order` reads.  Only an `OSError` is caught. -/
def readOrder (path : PyString) : Except KernelError (PyString -> Option PyString) :=
  match tree.readlines (pathJoin path "modules.order".toList) with
  | .ok lines => .ok (lines.foldl (tree.orderLine path) fun _ => none)
  | .error .osError => .ok fun _ => none
  | .error .notText => .error .other

/-- `_cache_modules_order`. -/
def cacheModulesOrder (path : PyString) (cache : SearchCache) :
    SearchCache × Except KernelError Unit :=
  match tree.readOrder path with
  | .ok order => (cache.setOrder path order, .ok ())
  | .error error => (cache.setOrder path fun _ => none, .error error)

/-- Read `modules.order` unless it was read before. -/
def ensureModulesOrder (path : PyString) (cache : SearchCache) :
    SearchCache × Except KernelError Unit :=
  match cache.modulesOrder path with
  | some _ => (cache, .ok ())
  | none => tree.cacheModulesOrder path cache

/-- `_get_module_path_from_modules_order`. -/
def getModulePathFromModulesOrder (path name : PyString) (cache : SearchCache) :
    SearchCache × Except KernelError PyString :=
  match tree.ensureModulesOrder path cache with
  | (cache, .error error) => (cache, .error error)
  | (cache, .ok _) =>
      (cache, orNoMatchingFile name ((cache.modulesOrder path).bind fun order => order name))

/-- The files of a tree whose names a pattern accepts, by their names. -/
def walked (path : PyString) (regex : Option Regex) : List (PyString × PyString) :=
  (tree.walk path).flatMap fun entry =>
    entry.2.filterMap fun filename =>
      let modname := normalizeModname filename
      if regex.all fun regex => regex.accepts modname then
        some (modname, pathJoin entry.1 filename)
      else none

/-- What is kept of a tree after it was read. -/
def addWalked (path : PyString) (regex : Option Regex) (files : PyString -> Option PyString) :
    PyString -> Option PyString :=
  (tree.walked path regex).foldl
    (fun files found => Function.update files found.1 (some found.2)) files

/-- The body of `_cache_file_tree`, for what is kept of the tree. -/
def extendTree (path : PyString) (regex : Option Regex) (found : FoundTree) : FoundTree :=
  match found.filters, regex with
  | none, _ => found
  | some _, none => ⟨none, tree.addWalked path none found.files⟩
  | some filters, some regex =>
      if filters.contains regex.pattern then found
      else ⟨some (filters ++ [regex.pattern]), tree.addWalked path (some regex) found.files⟩

/-- `_cache_file_tree`. -/
def cacheFileTree (path : PyString) (regex : Option Regex) (cache : SearchCache) : SearchCache :=
  let found := (cache.findmap path).getD ⟨some [], fun _ => none⟩
  { cache with
    findmap := Function.update cache.findmap path (some (tree.extendTree path regex found)) }

/-- `_get_file_path_from_tree_search`. -/
def getFilePathFromTreeSearch (path name : PyString) (regex : Option Regex) (cache : SearchCache) :
    SearchCache × Except KernelError PyString :=
  let cache := tree.cacheFileTree path regex cache
  (cache, orNoMatchingFile name
    ((cache.findmap path).bind fun found => found.files (normalizeModname name)))

/-- `_find_module_file`. -/
def findModuleFile (name path : PyString) (cache : SearchCache) :
    SearchCache × Except KernelError PyString :=
  match tree.getModulePathFromModulesOrder path name cache with
  | (cache, .error (.noMatchingFile _)) =>
      tree.getFilePathFromTreeSearch path name (some moduleRegex) cache
  | result => result

/-- `_find_module_debuginfo_file`. -/
def findModuleDebuginfoFile (name path : PyString) (cache : SearchCache) :
    SearchCache × Except KernelError PyString :=
  tree.getFilePathFromTreeSearch path name (some debuginfoRegex) cache

/-! ## Searches that do not disturb each other -/

/-- The dictionary in which a module is looked up first. -/
def orderOf (cache : SearchCache) (path : PyString) :
    Except KernelError (PyString -> Option PyString) :=
  match cache.modulesOrder path with
  | some order => .ok order
  | none => tree.readOrder path

/-- What is kept of a tree, once it has been read for a pattern. -/
def treeOf (cache : SearchCache) (path : PyString) (regex : Option Regex) : FoundTree :=
  tree.extendTree path regex ((cache.findmap path).getD ⟨some [], fun _ => none⟩)

/-- Two caches from which all module files and all debuginfo files are found in the same
places. -/
structure SameAnswers (before after : SearchCache) : Prop where
  order : forall path, tree.orderOf after path = tree.orderOf before path
  files : forall path name, ".ko".toList <:+ name ->
    (tree.treeOf after path (some moduleRegex)).files name =
      (tree.treeOf before path (some moduleRegex)).files name
  debuginfo : forall path name, ".debug".toList <:+ name ->
    (tree.treeOf after path (some debuginfoRegex)).files name =
      (tree.treeOf before path (some debuginfoRegex)).files name

/-- Where a module file is found. -/
def moduleFile (cache : SearchCache) (name path : PyString) : Except KernelError PyString :=
  match tree.orderOf cache path >>= fun order => orNoMatchingFile name (order name) with
  | .error (.noMatchingFile _) =>
      orNoMatchingFile name
        ((tree.treeOf cache path (some moduleRegex)).files (normalizeModname name))
  | result => result

/-- Where a debuginfo file is found. -/
def debuginfoFile (cache : SearchCache) (name path : PyString) : Except KernelError PyString :=
  orNoMatchingFile name
    ((tree.treeOf cache path (some debuginfoRegex)).files (normalizeModname name))

variable {tree}

theorem SameAnswers.refl (cache : SearchCache) : tree.SameAnswers cache cache :=
  ⟨fun _ => rfl, fun _ _ _ => rfl, fun _ _ _ => rfl⟩

theorem SameAnswers.trans {first second third : SearchCache}
    (left : tree.SameAnswers first second) (right : tree.SameAnswers second third) :
    tree.SameAnswers first third where
  order := fun path => (right.order path).trans (left.order path)
  files := fun path name shape => (right.files path name shape).trans (left.files path name shape)
  debuginfo := fun path name shape =>
    (right.debuginfo path name shape).trans (left.debuginfo path name shape)

/-- A walk for a pattern finds what a walk for all names finds and the pattern accepts. -/
theorem walked_some (path : PyString) (regex : Regex) :
    tree.walked path (some regex) =
      (tree.walked path none).filter fun found => regex.accepts found.1 := by
  rw [walked, walked, List.filter_flatMap]
  congr 1
  funext entry
  rw [List.filter_filterMap]
  rfl

/-- What is found for a name is the last file with this name in the walk, if there is one. -/
theorem addWalked_apply (path : PyString) (regex : Option Regex)
    (files : PyString -> Option PyString) (name : PyString) :
    tree.addWalked path regex files name =
      (lastAssigned name (tree.walked path regex)).or (files name) :=
  assign_apply files (tree.walked path regex) name

/-- Names that a pattern does not accept are not found in its walk. -/
theorem addWalked_of_rejected {path : PyString} {regex : Regex} {name : PyString}
    (rejected : regex.accepts name = false) (files : PyString -> Option PyString) :
    tree.addWalked path (some regex) files name = files name := by
  have others : forall found, found ∈ tree.walked path (some regex) -> found.1 ≠ name := by
    intro found member same
    rw [walked_some] at member
    have accepted := (List.mem_filter.mp member).2
    rw [same, rejected] at accepted
    cases accepted
  rw [addWalked_apply, lastAssigned_of_others others, Option.none_or]

/-- What is found for a name depends on what was found for it before. -/
theorem addWalked_congr {path : PyString} {regex : Option Regex} {name : PyString}
    {files others : PyString -> Option PyString} (same : files name = others name) :
    tree.addWalked path regex files name = tree.addWalked path regex others name := by
  rw [addWalked_apply, addWalked_apply, same]

theorem cacheFileTree_findmap (path : PyString) (regex : Option Regex) (cache : SearchCache) :
    (tree.cacheFileTree path regex cache).findmap path = some (tree.treeOf cache path regex) :=
  Function.update_self _ _ _

theorem getFilePathFromTreeSearch_eq (path name : PyString) (regex : Option Regex)
    (cache : SearchCache) :
    tree.getFilePathFromTreeSearch path name regex cache =
      (tree.cacheFileTree path regex cache,
        orNoMatchingFile name ((tree.treeOf cache path regex).files (normalizeModname name))) := by
  change (tree.cacheFileTree path regex cache, orNoMatchingFile name
    (((tree.cacheFileTree path regex cache).findmap path).bind fun found =>
      found.files (normalizeModname name))) = _
  rw [cacheFileTree_findmap]
  rfl

/-- A tree that was read for a pattern is not read for it again. -/
theorem extendTree_again (path : PyString) (regex : Regex) (found : FoundTree) :
    tree.extendTree path (some regex) (tree.extendTree path (some regex) found) =
      tree.extendTree path (some regex) found := by
  cases found with
  | mk filters files =>
      cases filters with
      | none => rfl
      | some filters =>
          change tree.extendTree path (some regex)
            (if filters.contains regex.pattern then _ else _) =
              if filters.contains regex.pattern then _ else _
          by_cases known : filters.contains regex.pattern
          · rw [if_pos known]
            exact if_pos known
          · rw [if_neg known]
            exact if_pos (List.contains_iff_mem.mpr (List.mem_append_right _ List.mem_cons_self))

/-- The files that another pattern rejects are found where they were. -/
theorem extendTree_other {path : PyString} {regex other : Regex} {name : PyString}
    (different : other.pattern ≠ regex.pattern) (rejected : other.accepts name = false)
    (found : FoundTree) :
    (tree.extendTree path (some regex) (tree.extendTree path (some other) found)).files name =
      (tree.extendTree path (some regex) found).files name := by
  rcases found with ⟨filters, files⟩
  cases filters with
  | none => rfl
  | some filters =>
      change (tree.extendTree path (some regex)
        (if filters.contains other.pattern then (⟨some filters, files⟩ : FoundTree)
          else ⟨some (filters ++ [other.pattern]), tree.addWalked path (some other) files⟩)).files
            name = _
      by_cases walked : filters.contains other.pattern
      · rw [if_pos walked]
      · rw [if_neg walked]
        have kept := @addWalked_of_rejected tree path _ _ rejected files
        change (if (filters ++ [other.pattern]).contains regex.pattern then
            (⟨some (filters ++ [other.pattern]), tree.addWalked path (some other) files⟩ : FoundTree)
          else ⟨some (filters ++ [other.pattern] ++ [regex.pattern]),
            tree.addWalked path (some regex) (tree.addWalked path (some other) files)⟩).files name =
          (if filters.contains regex.pattern then (⟨some filters, files⟩ : FoundTree)
            else ⟨some (filters ++ [regex.pattern]), tree.addWalked path (some regex) files⟩).files
              name
        by_cases known : filters.contains regex.pattern
        · have listed := List.mem_append_left [other.pattern] (List.contains_iff_mem.mp known)
          rw [if_pos known, if_pos (List.contains_iff_mem.mpr listed)]
          exact kept
        · rw [if_neg known, if_neg ?_]
          · exact addWalked_congr kept
          · intro member
            rcases List.mem_append.mp (List.contains_iff_mem.mp member) with listed | last
            · exact known (List.contains_iff_mem.mpr listed)
            · exact different (List.mem_singleton.mp last).symm

/-- Names with different last letters. -/
theorem last_apart {ending suffix name : PyString} {one two : Char}
    (endingLast : ending.getLast? = some one) (suffixLast : suffix.getLast? = some two)
    (different : one ≠ two) (shape : ending <:+ name) : ¬ suffix <:+ name := by
  rintro ⟨front, same⟩
  rcases shape with ⟨start, equal⟩
  have first : name.getLast? = some one := by
    rw [← equal, List.getLast?_append, endingLast]
    rfl
  have second : name.getLast? = some two := by
    rw [← same, List.getLast?_append, suffixLast]
    rfl
  rw [first] at second
  exact different (Option.some.inj second)

theorem debuginfoRegex_rejects {name : PyString} (shape : ".ko".toList <:+ name) :
    debuginfoRegex.accepts name = false :=
  decide_eq_false (@last_apart _ _ _ 'o' 'g' rfl rfl (by decide) shape)

theorem moduleRegex_rejects {name : PyString} (shape : ".debug".toList <:+ name) :
    moduleRegex.accepts name = false :=
  decide_eq_false (@last_apart _ _ _ 'g' 'o' rfl rfl (by decide) shape)

/-- What is kept of a tree after a tree was read for a pattern. -/
theorem treeOf_cacheFileTree (path searched : PyString) (regex other : Option Regex)
    (cache : SearchCache) :
    tree.treeOf (tree.cacheFileTree searched other cache) path regex =
      if path = searched then tree.extendTree path regex (tree.treeOf cache path other)
      else tree.treeOf cache path regex := by
  by_cases here : path = searched
  · subst here
    rw [if_pos rfl]
    simp only [treeOf]
    rw [cacheFileTree_findmap]
    rfl
  · rw [if_neg here]
    have kept : (tree.cacheFileTree searched other cache).findmap path = cache.findmap path :=
      Function.update_of_ne here _ _
    simp only [treeOf]
    rw [kept]

/-- Reading a tree for a pattern changes nothing for names that another pattern is for. -/
theorem files_cacheFileTree (path searched : PyString) {regex other : Regex} {name : PyString}
    (apart : other = regex ∨ other.pattern ≠ regex.pattern ∧ other.accepts name = false)
    (cache : SearchCache) :
    (tree.treeOf (tree.cacheFileTree searched (some other) cache) path (some regex)).files name =
      (tree.treeOf cache path (some regex)).files name := by
  rw [treeOf_cacheFileTree]
  by_cases here : path = searched
  · rw [if_pos here]
    rcases apart with same | ⟨different, rejected⟩
    · subst same
      exact congrArg (fun found : FoundTree => found.files name) (extendTree_again _ _ _)
    · exact extendTree_other different rejected _
  · rw [if_neg here]

/-- A search for a module file or for a debuginfo file in a tree. -/
theorem cacheFileTree_sameAnswers (path : PyString) {regex : Regex}
    (searched : regex = moduleRegex ∨ regex = debuginfoRegex) (cache : SearchCache) :
    tree.SameAnswers cache (tree.cacheFileTree path (some regex) cache) := by
  refine ⟨fun _ => rfl, ?_, ?_⟩
  · intro other name shape
    apply files_cacheFileTree
    rcases searched with same | same
    · exact .inl same
    · subst same
      exact .inr ⟨by decide, debuginfoRegex_rejects shape⟩
  · intro other name shape
    apply files_cacheFileTree
    rcases searched with same | same
    · subst same
      exact .inr ⟨by decide, moduleRegex_rejects shape⟩
    · exact .inl same

theorem orderOf_setOrder (path other : PyString) (order : PyString -> Option PyString)
    (cache : SearchCache) :
    tree.orderOf (cache.setOrder path order) other =
      if other = path then .ok order else tree.orderOf cache other := by
  by_cases here : other = path
  · subst here
    have kept : (cache.setOrder other order).modulesOrder other = some order :=
      Function.update_self _ _ _
    unfold orderOf
    rw [if_pos rfl, kept]
  · have kept : (cache.setOrder path order).modulesOrder other = cache.modulesOrder other :=
      Function.update_of_ne here _ _
    simp only [orderOf]
    rw [if_neg here, kept]

/-- The lookup of a dictionary, unless what is to be the dictionary is not text. -/
theorem ensureModulesOrder_eq (path : PyString) (cache : SearchCache) :
    (tree.ensureModulesOrder path cache).2 = (tree.orderOf cache path).map (fun _ => ()) ∧
      forall order, tree.orderOf cache path = .ok order ->
        (tree.ensureModulesOrder path cache).1.modulesOrder path = some order ∧
          tree.SameAnswers cache (tree.ensureModulesOrder path cache).1 := by
  cases known : cache.modulesOrder path with
  | some order =>
      have found : tree.orderOf cache path = .ok order := by
        simp only [orderOf]
        rw [known]
      have same : tree.ensureModulesOrder path cache = (cache, .ok ()) := by
        simp only [ensureModulesOrder]
        rw [known]
      rw [found, same]
      refine ⟨rfl, ?_⟩
      intro other equal
      cases equal
      exact ⟨known, SameAnswers.refl cache⟩
  | none =>
      have wanted : tree.orderOf cache path = tree.readOrder path := by
        simp only [orderOf]
        rw [known]
      have same : tree.ensureModulesOrder path cache = tree.cacheModulesOrder path cache := by
        simp only [ensureModulesOrder]
        rw [known]
      rw [wanted, same]
      simp only [cacheModulesOrder]
      cases read : tree.readOrder path with
      | error error => exact ⟨rfl, nofun⟩
      | ok order =>
          refine ⟨rfl, ?_⟩
          intro other equal
          cases equal
          refine ⟨Function.update_self _ _ _, ?_, fun _ _ _ => rfl, fun _ _ _ => rfl⟩
          intro searched
          change tree.orderOf (cache.setOrder path order) searched = _
          rw [orderOf_setOrder]
          by_cases here : searched = path
          · subst here
            rw [if_pos rfl, wanted, read]
          · rw [if_neg here]

theorem orderOf_error {path : PyString} {cache : SearchCache} {error : KernelError}
    (failed : tree.orderOf cache path = .error error) : error = .other := by
  simp only [orderOf, readOrder] at failed
  cases known : cache.modulesOrder path with
  | some order =>
      rw [known] at failed
      cases failed
  | none =>
      rw [known] at failed
      dsimp only at failed
      cases lines : tree.readlines (pathJoin path "modules.order".toList) with
      | ok lines =>
          rw [lines] at failed
          cases failed
      | error reason =>
          rw [lines] at failed
          cases reason <;> cases failed
          rfl

/-- The lookup of a module file in `modules.order`. -/
theorem getModulePathFromModulesOrder_eq (path name : PyString) (cache : SearchCache) :
    tree.getModulePathFromModulesOrder path name cache =
      ((tree.ensureModulesOrder path cache).1,
        tree.orderOf cache path >>= fun order => orNoMatchingFile name (order name)) := by
  rcases @ensureModulesOrder_eq tree path cache with ⟨result, found⟩
  simp only [getModulePathFromModulesOrder]
  rcases ran : tree.ensureModulesOrder path cache with ⟨after, read⟩
  rw [ran] at result found
  dsimp only at result found
  cases wanted : tree.orderOf cache path with
  | error error =>
      rw [wanted] at result
      rw [result]
      rfl
  | ok order =>
      rw [wanted] at result
      rw [result]
      change (after, orNoMatchingFile name _) = (after, orNoMatchingFile name _)
      rw [(found order wanted).1]
      rfl

theorem ensureModulesOrder_findmap (path : PyString) (cache : SearchCache) :
    (tree.ensureModulesOrder path cache).1.findmap = cache.findmap := by
  simp only [ensureModulesOrder]
  cases cache.modulesOrder path with
  | some order => rfl
  | none =>
      simp only [cacheModulesOrder]
      cases tree.readOrder path <;> rfl

/-- A module file is found where the caches say, and every other file still is where it was. -/
theorem findModuleFile_eq (name path : PyString) (cache : SearchCache) :
    (tree.findModuleFile name path cache).2 = tree.moduleFile cache name path ∧
      (tree.moduleFile cache name path ≠ .error .other ->
        tree.SameAnswers cache (tree.findModuleFile name path cache).1) := by
  rcases @ensureModulesOrder_eq tree path cache with ⟨_, found⟩
  have findmap := @ensureModulesOrder_findmap tree path cache
  simp only [findModuleFile, moduleFile]
  rw [getModulePathFromModulesOrder_eq]
  cases wanted : tree.orderOf cache path with
  | error error =>
      cases orderOf_error wanted
      exact ⟨rfl, fun noError => absurd rfl noError⟩
  | ok order =>
      have kept := (found order wanted).2
      have bound : ((Except.ok order : Except KernelError _) >>= fun order =>
          orNoMatchingFile name (order name)) = orNoMatchingFile name (order name) := rfl
      rw [bound]
      cases listed : order name with
      | some modpath => exact ⟨rfl, fun _ => kept⟩
      | none =>
          have search := @getFilePathFromTreeSearch_eq tree path name (some moduleRegex)
            (tree.ensureModulesOrder path cache).1
          have same : tree.treeOf (tree.ensureModulesOrder path cache).1 path (some moduleRegex) =
              tree.treeOf cache path (some moduleRegex) := by
            simp only [treeOf]
            rw [findmap]
          rw [same] at search
          constructor
          · exact congrArg Prod.snd search
          · intro _
            change tree.SameAnswers cache (tree.getFilePathFromTreeSearch path name _ _).1
            rw [search]
            exact kept.trans (cacheFileTree_sameAnswers path (.inl rfl) _)

/-- A debuginfo file is found where the caches say, and every other file still is where it
was. -/
theorem findModuleDebuginfoFile_eq (name path : PyString) (cache : SearchCache) :
    (tree.findModuleDebuginfoFile name path cache).2 = tree.debuginfoFile cache name path ∧
      tree.SameAnswers cache (tree.findModuleDebuginfoFile name path cache).1 := by
  simp only [findModuleDebuginfoFile]
  rw [getFilePathFromTreeSearch_eq]
  exact ⟨rfl, cacheFileTree_sameAnswers path (.inr rfl) cache⟩

theorem suffix_replace {old new : Char} {ending name : PyString}
    (plain : PyString.replace old new ending = ending) (shape : ending <:+ name) :
    ending <:+ PyString.replace old new name := by
  rcases shape with ⟨front, same⟩
  refine ⟨PyString.replace old new front, ?_⟩
  rw [← same, PyString.replace_append, plain]

/-- Caches with the same answers lead to the same module file. -/
theorem SameAnswers.moduleFile {before after : SearchCache} (same : tree.SameAnswers before after)
    {name : PyString} (shape : ".ko".toList <:+ name) (path : PyString) :
    tree.moduleFile after name path = tree.moduleFile before name path := by
  simp only [FileTree.moduleFile]
  rw [same.order path, same.files path (normalizeModname name) (suffix_replace rfl shape)]

/-- Caches with the same answers lead to the same debuginfo file. -/
theorem SameAnswers.debuginfoFile {before after : SearchCache}
    (same : tree.SameAnswers before after) {name : PyString} (shape : ".debug".toList <:+ name)
    (path : PyString) : tree.debuginfoFile after name path = tree.debuginfoFile before name path := by
  simp only [FileTree.debuginfoFile]
  rw [same.debuginfo path (normalizeModname name) (suffix_replace rfl shape)]

end FileTree

end Kernel
end CrashPython

import CrashPython.Kernel.ModuleFiles

namespace CrashPython
namespace Kernel

open Library

/-!
# Searches in a tree with any filters

`_get_file_path_from_tree_search` takes any compiled pattern or none.  The files that were
found are kept in one dictionary for all patterns, and of the patterns only their texts are
kept.  A walk adds the files whose names its pattern accepts, over what earlier walks found,
and a walk for all names makes all later walks of this tree superfluous.

All walks of a tree find the last file of a name, so they agree about the names that they
find.  What is kept of a tree is therefore part of what a walk for all names finds, and it
has every name that one of the kept patterns accepts.  Two patterns of one text need not
accept the same names, for a pattern is compiled with flags.
-/

/-- The arguments of `_get_file_path_from_tree_search`. -/
structure TreeQuery where
  path : PyString
  name : PyString
  regex : Option Regex

namespace TreeQuery

/-- The key under which the file is kept. -/
def modname (query : TreeQuery) : PyString :=
  normalizeModname query.name

/-- The filter of the query, if there is one, matches its own name. -/
def Accepted (query : TreeQuery) : Prop :=
  forall regex, query.regex = some regex -> regex.accepts query.modname = true

/-- An earlier filter for the same tree and of the same text matches the name too. -/
def AgreesWith (query earlier : TreeQuery) : Prop :=
  forall regex other, query.regex = some regex -> earlier.regex = some other ->
    earlier.path = query.path -> other.pattern = regex.pattern -> other.accepts query.modname = true

end TreeQuery

namespace FileTree

variable (tree : FileTree)

/-- One query. -/
def search (query : TreeQuery) (cache : SearchCache) : SearchCache × Except KernelError PyString :=
  tree.getFilePathFromTreeSearch query.path query.name query.regex cache

/-- Some queries, one after another. -/
def searches (queries : List TreeQuery) (cache : SearchCache) : SearchCache :=
  queries.foldl (fun cache query => (tree.search query cache).1) cache

/-- What is kept of a tree, or what is kept of it before it is read. -/
def found (cache : SearchCache) (path : PyString) : FoundTree :=
  (cache.findmap path).getD ⟨some [], fun _ => none⟩

/-- The file of a name in a tree: the last one that a walk comes to. -/
def lastFile (path name : PyString) : Option PyString :=
  lastAssigned name (tree.walked path none)

/-! ## What a walk adds -/

variable {tree}

/-- What is kept under a name: nothing, or its file. -/
def Known (tree : FileTree) (path name : PyString) (kept : Option PyString) : Prop :=
  kept = none ∨ kept = tree.lastFile path name

theorem Known.or {path name : PyString} {kept : Option PyString}
    (known : tree.Known path name kept) :
    (tree.lastFile path name).or kept = tree.lastFile path name := by
  rcases known with nothing | same
  · rw [nothing, Option.or_none]
  · rw [same, Option.or_self]

/-- A walk for all names makes the file of a name known. -/
theorem Known.walk_all {path name : PyString} {files : PyString -> Option PyString}
    (known : tree.Known path name (files name)) :
    tree.addWalked path none files name = tree.lastFile path name :=
  (addWalked_apply path none files name).trans known.or

/-- So does a walk whose filter accepts the name. -/
theorem Known.walk_accepted {path name : PyString} {files : PyString -> Option PyString}
    (known : tree.Known path name (files name)) {regex : Regex}
    (accepted : regex.accepts name = true) :
    tree.addWalked path (some regex) files name = tree.lastFile path name := by
  have kept : forall found : PyString × PyString, found.1 = name -> regex.accepts found.1 = true := by
    intro found same
    rw [same]
    exact accepted
  rw [addWalked_apply, walked_some, lastAssigned_filter _ kept]
  exact known.or

/-- Any other walk leaves the name alone. -/
theorem Known.walk_cases {path name : PyString} {files : PyString -> Option PyString}
    (known : tree.Known path name (files name)) (regex : Regex) :
    tree.addWalked path (some regex) files name = files name ∨
      tree.addWalked path (some regex) files name = tree.lastFile path name := by
  cases accepted : regex.accepts name with
  | false => exact Or.inl (addWalked_of_rejected accepted files)
  | true => exact Or.inr (known.walk_accepted accepted)

/-! ## What is kept after some queries -/

/-- What is kept of a tree, as far as one name goes, after some queries.  Each kept text is
the text of a filter that was asked for, and if that one accepts the name, its file is kept. -/
structure Remembers (tree : FileTree) (queries : List TreeQuery) (path name : PyString)
    (kept : FoundTree) : Prop where
  known : tree.Known path name (kept.files name)
  complete : kept.filters = none -> kept.files name = tree.lastFile path name
  walked : forall patterns, kept.filters = some patterns -> forall pattern, pattern ∈ patterns ->
    Exists fun query : TreeQuery => query ∈ queries ∧ query.path = path ∧
      Exists fun regex : Regex => query.regex = some regex ∧ regex.pattern = pattern ∧
        (regex.accepts name = true -> kept.files name = tree.lastFile path name)

variable {queries : List TreeQuery} {path name : PyString} {kept : FoundTree}

theorem remembers_nothing : tree.Remembers queries path name ⟨some [], fun _ => none⟩ where
  known := Or.inl rfl
  complete := by
    intro unfiltered
    cases unfiltered
  walked := by
    intro patterns same pattern member
    rw [← Option.some.inj same] at member
    cases member

/-- More queries do not matter for what is kept. -/
theorem Remembers.later (before : tree.Remembers queries path name kept) (query : TreeQuery) :
    tree.Remembers (queries ++ [query]) path name kept where
  known := before.known
  complete := before.complete
  walked := by
    intro patterns same pattern member
    rcases before.walked patterns same pattern member with ⟨earlier, asked, rest⟩
    exact ⟨earlier, List.mem_append_left _ asked, rest⟩

/-- A walk for one more pattern. -/
theorem Remembers.walk {filters : List PyString} {files : PyString -> Option PyString}
    (before : tree.Remembers queries path name ⟨some filters, files⟩) {query : TreeQuery}
    (here : query.path = path) {regex : Regex} (asked : query.regex = some regex) :
    tree.Remembers (queries ++ [query]) path name
      ⟨some (filters ++ [regex.pattern]), tree.addWalked path (some regex) files⟩ where
  known := by
    rcases before.known.walk_cases regex with same | found
    · exact Eq.subst (motive := tree.Known path name) same.symm before.known
    · exact Or.inr found
  complete := by
    intro unfiltered
    cases unfiltered
  walked := by
    intro patterns same pattern member
    rw [← Option.some.inj same] at member
    rcases List.mem_append.mp member with old | new
    · rcases before.walked filters rfl pattern old with
        ⟨earlier, inQueries, there, other, otherAsked, text, found⟩
      refine ⟨earlier, List.mem_append_left _ inQueries, there, other, otherAsked, text, ?_⟩
      intro accepted
      rcases before.known.walk_cases regex with left | walked
      · exact left.trans (found accepted)
      · exact walked
    · refine ⟨query, List.mem_append_right _ List.mem_cons_self, here, regex, asked,
        (List.mem_singleton.mp new).symm, fun accepted => before.known.walk_accepted accepted⟩

/-- The step: a query for this tree. -/
theorem Remembers.extend (before : tree.Remembers queries path name kept) {query : TreeQuery}
    (here : query.path = path) :
    tree.Remembers (queries ++ [query]) path name (tree.extendTree path query.regex kept) := by
  rcases kept with ⟨filters, files⟩
  cases filters with
  | none => exact before.later query
  | some filters =>
      cases asked : query.regex with
      | none =>
          have all : tree.addWalked path none files name = tree.lastFile path name :=
            before.known.walk_all
          refine ⟨Or.inr all, fun _ => all, ?_⟩
          intro patterns unfiltered
          cases unfiltered
      | some regex =>
          change tree.Remembers _ path name (if filters.contains regex.pattern then _ else _)
          by_cases again : filters.contains regex.pattern
          · rw [if_pos again]
            exact before.later query
          · rw [if_neg again]
            exact before.walk here asked

/-- One query, whichever tree it is for. -/
theorem Remembers.search {cache : SearchCache}
    (before : tree.Remembers queries path name (found cache path)) (query : TreeQuery) :
    tree.Remembers (queries ++ [query]) path name (found (tree.search query cache).1 path) := by
  by_cases here : query.path = path
  · have after : found (tree.search query cache).1 path =
        tree.extendTree path query.regex (found cache path) := by
      subst here
      rw [FileTree.search, getFilePathFromTreeSearch_eq, found, cacheFileTree_findmap]
      rfl
    rw [after]
    exact before.extend here
  · have other : (tree.search query cache).1.findmap path = cache.findmap path :=
      Function.update_of_ne (Ne.symm here) _ _
    rw [found, other]
    exact before.later query

/-- The run: any queries from an empty `findmap`. -/
theorem remembers_searches {cache : SearchCache} (fresh : cache.findmap = fun _ => none)
    (queries : List TreeQuery) (path name : PyString) :
    tree.Remembers queries path name (found (tree.searches queries cache) path) := by
  induction queries using List.reverseRecOn with
  | nil =>
      rw [searches, List.foldl_nil, found, fresh]
      exact remembers_nothing
  | append_singleton queries query inductionHypothesis =>
      rw [searches, List.foldl_append]
      exact inductionHypothesis.search query

/-! ## The answer to a query -/

/-- A query that its own filter accepts, and with which the earlier filters of the same text
agree, is answered with the file of its name. -/
theorem Remembers.answer {query : TreeQuery}
    (before : tree.Remembers queries query.path query.modname kept) (accepted : query.Accepted)
    (agrees : forall earlier, earlier ∈ queries -> query.AgreesWith earlier) :
    (tree.extendTree query.path query.regex kept).files query.modname =
      tree.lastFile query.path query.modname := by
  rcases kept with ⟨filters, files⟩
  cases filters with
  | none => exact before.complete rfl
  | some filters =>
      cases asked : query.regex with
      | none => exact before.known.walk_all
      | some regex =>
          change (if filters.contains regex.pattern then (⟨some filters, files⟩ : FoundTree)
            else ⟨_, tree.addWalked query.path (some regex) files⟩).files query.modname = _
          by_cases again : filters.contains regex.pattern
          · rw [if_pos again]
            rcases before.walked filters rfl regex.pattern (List.contains_iff_mem.mp again) with
              ⟨earlier, inQueries, there, other, otherAsked, text, found⟩
            exact found (agrees earlier inQueries regex other asked otherAsked there text)
          · rw [if_neg again]
            exact before.known.walk_accepted (accepted regex asked)

/-- What a query is answered after others. -/
theorem search_after {cache : SearchCache} (fresh : cache.findmap = fun _ => none)
    {query : TreeQuery} (accepted : query.Accepted)
    (agrees : forall earlier, earlier ∈ queries -> query.AgreesWith earlier) :
    (tree.search query (tree.searches queries cache)).2 =
      orNoMatchingFile query.name (tree.lastFile query.path query.modname) := by
  rw [FileTree.search, getFilePathFromTreeSearch_eq]
  have before := @remembers_searches tree cache fresh queries query.path query.modname
  have answer := before.answer accepted agrees
  exact congrArg (orNoMatchingFile query.name) answer

/-- What a query is answered alone. -/
theorem search_alone {cache : SearchCache} (fresh : cache.findmap = fun _ => none)
    {query : TreeQuery} (accepted : query.Accepted) :
    (tree.search query cache).2 =
      orNoMatchingFile query.name (tree.lastFile query.path query.modname) :=
  @search_after tree [] cache fresh query accepted fun _ none => absurd none List.not_mem_nil

/-- No queries before make a difference, if their filters for the same tree and of the same
text accept the name too. -/
theorem search_independent (tree : FileTree) (cache : SearchCache)
    (fresh : cache.findmap = fun _ => none) (queries : List TreeQuery) (query : TreeQuery)
    (accepted : query.Accepted)
    (agrees : forall earlier, earlier ∈ queries -> query.AgreesWith earlier) :
    (tree.search query (tree.searches queries cache)).2 = (tree.search query cache).2 :=
  (search_after fresh accepted agrees).trans (search_alone fresh accepted).symm

/-- Compiled patterns whose text alone says what they accept, as with patterns that are all
compiled without flags. -/
def CompiledBy (compile : PyString -> PyString -> Bool) (query : TreeQuery) : Prop :=
  forall regex, query.regex = some regex -> regex.accepts = compile regex.pattern

/-- Such filters never disturb each other. -/
theorem search_independent_of_compiled {compile : PyString -> PyString -> Bool} (tree : FileTree)
    (cache : SearchCache) (fresh : cache.findmap = fun _ => none) (queries : List TreeQuery)
    (query : TreeQuery) (accepted : query.Accepted) (own : CompiledBy compile query)
    (others : forall earlier, earlier ∈ queries -> CompiledBy compile earlier) :
    (tree.search query (tree.searches queries cache)).2 = (tree.search query cache).2 := by
  have agrees : forall earlier, earlier ∈ queries -> query.AgreesWith earlier := by
    intro earlier member regex other asked otherAsked _ text
    rw [others earlier member other otherAsked, text, ← own regex asked]
    exact accepted regex asked
  exact (search_after fresh accepted agrees).trans (search_alone fresh accepted).symm

/-- A tree in which two files have one name. -/
def twoFilesTree : FileTree where
  pathExists := fun _ => true
  readlines := fun _ => .error .osError
  walk := fun path => [(path, ["snd-pcm.ko".toList, "snd-pcm.ko.debug".toList]),
    (pathJoin path "extra".toList, ["snd_pcm.ko".toList])]

/-- A search for the module. -/
def moduleQuery : TreeQuery :=
  ⟨"/lib".toList, "snd-pcm.ko".toList, some moduleRegex⟩

/-- A search for its debuginfo. -/
def debuginfoQuery : TreeQuery :=
  ⟨"/lib".toList, "snd-pcm.ko.debug".toList, some debuginfoRegex⟩

/-- A search for its debuginfo among all files. -/
def unfilteredQuery : TreeQuery :=
  ⟨"/lib".toList, "snd-pcm.ko.debug".toList, none⟩

/-- The module is found in the same place after searches with another filter, with the same
filter and with none. -/
theorem search_independent_twoFiles :
    (twoFilesTree.search moduleQuery
        (twoFilesTree.searches [debuginfoQuery, moduleQuery, unfilteredQuery] SearchCache.empty)).2 =
      (twoFilesTree.search moduleQuery SearchCache.empty).2 := by
  apply search_independent twoFilesTree SearchCache.empty rfl
  · intro regex same
    cases same
    decide
  · intro earlier member regex other same otherSame there text
    cases same
    simp only [List.mem_cons, List.not_mem_nil, or_false] at member
    rcases member with here | here | here
    · subst here
      cases otherSame
      exact absurd text (by decide)
    · subst here
      cases otherSame
      decide
    · subst here
      cases otherSame

/-- The pattern `*.ko` compiled with `re.IGNORECASE`.  The Kelvin sign is a capital `k` too. -/
def ignoreCaseRegex : Regex where
  pattern := moduleRegex.pattern
  accepts := fun name =>
    [".ko", ".kO", ".Ko", ".KO", ".\u212ao", ".\u212aO"].any fun suffix =>
      decide (suffix.toList <:+ name)

/-- A tree with a file whose name has capital letters. -/
def capitalTree : FileTree where
  pathExists := fun _ => true
  readlines := fun _ => .error .osError
  walk := fun path => [(path, ["CRC32.KO".toList])]

/-- A search for this file that ignores the case of letters. -/
def capitalQuery : TreeQuery :=
  ⟨"/lib".toList, "CRC32.KO".toList, some ignoreCaseRegex⟩

/-- The file is not found after a search with a filter of the same text that does not ignore
the case. -/
theorem search_not_independent :
    ¬ forall (tree : FileTree) (cache : SearchCache), cache.findmap = (fun _ => none) ->
      forall (queries : List TreeQuery) (query : TreeQuery), query.Accepted ->
        (tree.search query (tree.searches queries cache)).2 = (tree.search query cache).2 := by
  intro independent
  have accepted : capitalQuery.Accepted := by
    intro regex same
    cases same
    decide
  have same := independent capitalTree SearchCache.empty rfl [moduleQuery] capitalQuery accepted
  have missing : (capitalTree.search capitalQuery
      (capitalTree.searches [moduleQuery] SearchCache.empty)).2 =
        .error (.noMatchingFile "CRC32.KO".toList) := rfl
  have present : (capitalTree.search capitalQuery SearchCache.empty).2 =
      .ok "/lib/CRC32.KO".toList := rfl
  rw [missing, present] at same
  cases same

end FileTree
end Kernel
end CrashPython

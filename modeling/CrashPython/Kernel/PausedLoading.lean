import CrashPython.Kernel.LoadModules
import CrashPython.Library.Decided

namespace CrashPython
namespace Kernel

open Library Infra

/-!
# How loading the modules ends

The files that are tried for a module, and in which order, do not depend on what was loaded
before, so what they are like decides how `load_modules` ends.  The pause of the callbacks ends
when the loops do.  An exception that leaves the loops leaves the callbacks paused for good, and
a session that goes on after it never evaluates them again.
-/

namespace CrashKernel

variable (kernel : CrashKernel) (environment : LoadEnvironment)

/-- What `try_load_module` ends with. -/
def loadResult (module : Module) (modname tmpdirname modpath : PyString) :
    Except KernelError Objfile := do
  let (path, contents) ← moduleContents environment modname modpath tmpdirname
  let _ ← kernel.executeLoad environment module modname path contents
  module.lookupObjfile path

/-- Whether a file brings symbols, as `_try_load_debuginfo` says. -/
def debuginfoResult (objfile : Objfile) (path : PyString) : Except KernelError Bool :=
  if environment.tree.pathExists path then
    match objfile.addSeparateDebugFile path with
    | .error (.gdbError _) => .ok false
    | result => result
  else .ok false

/-- What the attempt with the build id ends with. -/
def buildIdResult (objfile : Objfile) (path : PyString) : Except KernelError Bool :=
  match buildIdPath objfile with
  | some buildIdPath => debuginfoResult environment objfile (path ++ '/' :: buildIdPath)
  | none => .ok false

/-- No file that is tried for debuginfo raises anything but an error of gdb. -/
def QuietDebuginfo (cache : SearchCache) (objfile : Objfile) (filename : PyString) :
    List PyString -> Prop
  | [] => True
  | path :: rest =>
      match buildIdResult environment objfile path with
      | .error _ => False
      | .ok true => True
      | .ok false =>
          match environment.tree.debuginfoFile cache filename path with
          | .error (.noMatchingFile _) => QuietDebuginfo cache objfile filename rest
          | .error _ => False
          | .ok filepath =>
              match debuginfoResult environment objfile filepath with
              | .error _ => False
              | .ok true => True
              | .ok false => QuietDebuginfo cache objfile filename rest

/-- No file that is tried for a module raises anything but what means that another file is
tried, and nothing is raised for the debuginfo of the file that is loaded. -/
def QuietModule (cache : SearchCache) (module : Module) (modname tmpdirname : PyString) :
    List PyString -> Prop
  | [] => True
  | path :: rest =>
      match environment.tree.moduleFile cache (modname ++ ".ko".toList) path with
      | .error (.noMatchingFile _) => QuietModule cache module modname tmpdirname rest
      | .error _ => False
      | .ok modpath =>
          match kernel.loadResult environment module modname tmpdirname modpath with
          | .error error =>
              error.skips = true ∧ QuietModule cache module modname tmpdirname rest
          | .ok objfile =>
              objfile.hasSymbols = true ∨
                QuietDebuginfo environment cache objfile (debuginfoName modpath)
                  kernel.moduleDebuginfoPath

/-- Nothing is raised between the pause and its end. -/
structure Uneventful (cache : SearchCache) : Prop where
  modules : Exists fun tmpdirname : PyString => environment.tempdir = .ok tmpdirname ∧
    forall module, module ∈ environment.modules -> Exists fun modname : PyString =>
      module.name = .ok modname ∧
        kernel.QuietModule environment cache module modname tmpdirname kernel.modulePath
  cleanup : environment.cleanup = .ok ()

/-- All files are found where they were found from the first caches. -/
def Answers (environment : LoadEnvironment) (start : SearchCache) (state : LoadState) : Prop :=
  environment.tree.SameAnswers start state.cache

variable {kernel environment} {start : SearchCache}

theorem newObjfileEvent_ends (module : Module) :
    Ends (Answers environment start) (.ok ⟨⟩) (newObjfileEvent module) :=
  Ends.updates fun _ kept => kept

theorem tryLoadModule_ends (modname : PyString) (module : Module) (modpath tmpdirname : PyString) :
    Ends (Answers environment start)
      (kernel.loadResult environment module modname tmpdirname modpath)
      (kernel.tryLoadModule environment modname module modpath tmpdirname) := by
  apply (Ends.reads _).andThen
  rintro ⟨path, contents⟩ _
  apply (Ends.reads _).andThen
  intro output _
  exact (newObjfileEvent_ends module).andThen fun _ _ => Ends.reads (module.lookupObjfile path)

theorem tryLoadDebuginfo_ends (module : Module) (objfile : Objfile) (path : PyString) :
    Ends (Answers environment start) (debuginfoResult environment objfile path)
      (tryLoadDebuginfo environment module objfile path) := by
  simp only [debuginfoResult, tryLoadDebuginfo]
  cases environment.tree.pathExists path with
  | false => exact Ends.reads (.ok false)
  | true =>
      cases objfile.addSeparateDebugFile path with
      | ok symbols =>
          exact (newObjfileEvent_ends module).andThen fun _ _ => Ends.reads (.ok symbols)
      | error error =>
          cases error with
          | gdbError message => exact Ends.reads (.ok false)
          | _ => exact Ends.reads (.error _)

theorem tryBuildId_ends (module : Module) (objfile : Objfile) (path : PyString) :
    Ends (Answers environment start) (buildIdResult environment objfile path)
      (tryBuildId environment module objfile path) := by
  simp only [buildIdResult, tryBuildId]
  cases buildIdPath objfile with
  | none => exact Ends.reads (.ok false)
  | some buildIdPath => exact tryLoadDebuginfo_ends module objfile _

theorem attempt_ends {Value : Type} {read : Except KernelError Value}
    {procedure : EStateM KernelError LoadState Value}
    (ends : Ends (Answers environment start) read procedure) :
    Ends (Answers environment start) (.ok read) (attempt procedure) := by
  intro state kept
  rcases ends state kept with ⟨after, still, ran⟩
  refine ⟨after, still, ?_⟩
  change attempt procedure state = _
  simp only [attempt]
  rw [ran]
  cases read <;> rfl

/-- The search for debuginfo ends with what the first caches say. -/
theorem searching_debuginfo {filename : PyString} (shape : ".debug".toList <:+ filename)
    (path : PyString) :
    Ends (Answers environment start) (.ok (environment.tree.debuginfoFile start filename path))
      (searching (environment.tree.findModuleDebuginfoFile filename path)) := by
  intro state kept
  rcases @FileTree.findModuleDebuginfoFile_eq environment.tree filename path state.cache
    with ⟨found, same⟩
  refine ⟨{ state with cache := (environment.tree.findModuleDebuginfoFile filename path state.cache).1 },
    kept.trans same, ?_⟩
  change EStateM.Result.ok _ _ = EStateM.Result.ok _ _
  rw [found, kept.debuginfoFile shape path]

/-- So does the search for a module file, unless `modules.order` is not text. -/
theorem searching_module {name path : PyString} (shape : ".ko".toList <:+ name)
    (readable : environment.tree.moduleFile start name path ≠ .error .other) :
    Ends (Answers environment start) (.ok (environment.tree.moduleFile start name path))
      (searching (environment.tree.findModuleFile name path)) := by
  intro state kept
  rcases @FileTree.findModuleFile_eq environment.tree name path state.cache
    with ⟨found, same⟩
  rw [kept.moduleFile shape path] at found same
  refine ⟨{ state with cache := (environment.tree.findModuleFile name path state.cache).1 },
    kept.trans (same readable), ?_⟩
  change EStateM.Result.ok _ _ = EStateM.Result.ok _ _
  rw [found]

theorem debuginfoName_shape (modpath : PyString) : ".debug".toList <:+ debuginfoName modpath :=
  List.suffix_append _ _

/-- The loop over the directories with debuginfo ends without an exception if all its files are
quiet. -/
theorem loadDebuginfoFrom_decided (module : Module) (objfile : Objfile) {filename : PyString}
    (shape : ".debug".toList <:+ filename) (paths : List PyString) :
    Decided (Answers environment start) (QuietDebuginfo environment start objfile filename paths)
      (loadDebuginfoFrom environment module objfile filename paths) := by
  induction paths with
  | nil => exact Decided.pure _
  | cons path rest inductionHypothesis =>
      simp only [loadDebuginfoFrom, QuietDebuginfo]
      apply Decided.ofEnds (tryBuildId_ends module objfile path)
      · intro error raised
        rw [raised]
        exact id
      · intro byBuildId found
        rw [found]
        cases byBuildId with
        | true => exact Decided.pure _
        | false =>
            refine Decided.ofEnds (searching_debuginfo shape path) ?_ ?_
            · intro error impossible
              cases impossible
            intro answer same
            cases same
            cases environment.tree.debuginfoFile start filename path with
            | error error =>
                cases error with
                | noMatchingFile name => exact inductionHypothesis
                | _ => exact Decided.throw _
            | ok filepath =>
                apply Decided.ofEnds (tryLoadDebuginfo_ends module objfile filepath)
                · intro error raised
                  simp only [raised]
                  exact id
                · intro symbols found
                  simp only [found]
                  cases symbols with
                  | true => exact Decided.pure _
                  | false => exact inductionHypothesis

theorem moduleFileName_shape (modname : PyString) : ".ko".toList <:+ modname ++ ".ko".toList :=
  List.suffix_append _ _

/-- A file `modules.order` that is not text ends a search, whatever comes after it. -/
theorem searching_unreadable {name path : PyString} (shape : ".ko".toList <:+ name)
    (unreadable : environment.tree.moduleFile start name path = .error .other) {Value : Type}
    {next : Except KernelError PyString -> EStateM KernelError LoadState Value}
    (raises : next (.error .other) = throw .other) :
    Decided (Answers environment start) False
      (searching (environment.tree.findModuleFile name path) >>= next) := by
  refine ⟨fun _ _ impossible => False.elim impossible, ?_⟩
  intro state kept _
  rcases @FileTree.findModuleFile_eq environment.tree name path state.cache with ⟨found, _⟩
  rw [kept.moduleFile shape path, unreadable] at found
  let after : LoadState :=
    { state with cache := (environment.tree.findModuleFile name path state.cache).1 }
  have ran : (searching (environment.tree.findModuleFile name path)).run state =
      .ok (.error .other) after :=
    congrArg (fun answer => EStateM.Result.ok answer after) found
  refine ⟨.other, after, ?_⟩
  rw [EStateM.run_bind, ran]
  change (next (.error .other)).run after = _
  rw [raises]
  rfl

/-- What follows when the file of a module was loaded. -/
theorem loaded_decided (module : Module) (objfile : Objfile) (modpath : PyString) :
    Decided (Answers environment start)
      (objfile.hasSymbols = true ∨ QuietDebuginfo environment start objfile (debuginfoName modpath)
        kernel.moduleDebuginfoPath)
      (if objfile.hasSymbols then pure (some objfile)
        else do
          kernel.loadModuleDebuginfo environment module objfile modpath
          pure (some objfile)) := by
  cases symbols : objfile.hasSymbols with
  | true => exact (Decided.pure _).congr ⟨fun _ => .inl rfl, fun _ => trivial⟩
  | false =>
      have debuginfo := @loadDebuginfoFrom_decided environment start module objfile _
        (debuginfoName_shape modpath) kernel.moduleDebuginfoPath
      apply (debuginfo.andThen fun _ => Decided.pure (some objfile)).congr
      constructor
      · exact fun quiet => .inr quiet.1
      · intro either
        rcases either with impossible | quiet
        · cases impossible
        · exact ⟨quiet, trivial⟩

/-- The loop over the directories of a module ends without an exception if all its files are
quiet. -/
theorem loadFrom_decided (module : Module) (modname tmpdirname : PyString) (paths : List PyString) :
    Decided (Answers environment start)
      (kernel.QuietModule environment start module modname tmpdirname paths)
      (kernel.loadFrom environment module modname tmpdirname paths) := by
  have shape := moduleFileName_shape modname
  induction paths with
  | nil => exact Decided.pure _
  | cons path rest inductionHypothesis =>
      simp only [loadFrom, QuietModule]
      by_cases unreadable :
          environment.tree.moduleFile start (modname ++ ".ko".toList) path = .error .other
      · rw [unreadable]
        exact searching_unreadable shape unreadable rfl
      · refine Decided.ofEnds (searching_module shape unreadable) ?_ ?_
        · intro error impossible
          cases impossible
        · intro answer same
          cases same
          cases environment.tree.moduleFile start (modname ++ ".ko".toList) path with
          | error error =>
              cases error with
              | noMatchingFile name => exact inductionHypothesis
              | _ => exact Decided.throw _
          | ok modpath =>
              dsimp only
              refine Decided.ofEnds
                (attempt_ends (tryLoadModule_ends modname module modpath tmpdirname)) ?_ ?_
              · intro error impossible
                cases impossible
              · intro loaded same
                cases same
                cases kernel.loadResult environment module modname tmpdirname modpath with
                | error error =>
                    dsimp only
                    cases skips : error.skips with
                    | true => exact inductionHypothesis.congr (and_iff_right rfl).symm
                    | false =>
                        apply (Decided.throw error).congr
                        exact ⟨False.elim, fun quiet => Bool.noConfusion quiet.1⟩
                | ok objfile => exact loaded_decided module objfile modpath

/-- A round of the loop over the modules ends without an exception if the name of the module can
be read and all its files are quiet. -/
theorem loadModule_decided (tmpdirname : PyString) (module : Module) :
    Decided (Answers environment start)
      (Exists fun modname : PyString => module.name = .ok modname ∧
        kernel.QuietModule environment start module modname tmpdirname kernel.modulePath)
      (kernel.loadModule environment tmpdirname module) := by
  apply Decided.ofEnds (Ends.reads module.name)
  · rintro error raised ⟨modname, found, _⟩
    rw [raised] at found
    cases found
  · intro modname found
    have searched := @loadFrom_decided kernel environment start module modname tmpdirname
      kernel.modulePath
    refine (searched.andThen ?_).congr (?_ : _ ∧ True <-> _)
    · intro objfile
      cases objfile with
      | none => exact Decided.updates fun _ kept => kept
      | some objfile => exact Decided.updates fun _ kept => kept
    · rw [found, and_true]
      constructor
      · exact fun quiet => ⟨modname, rfl, quiet⟩
      · rintro ⟨other, same, quiet⟩
        cases same
        exact quiet

theorem inTempdir_run (body : EStateM KernelError LoadState PUnit) (state : LoadState) :
    (inTempdir environment body).run state =
      match body.run state with
      | .ok _ after => (raising environment.cleanup : EStateM KernelError LoadState PUnit).run after
      | .error error after =>
          (raising environment.cleanup >>= fun _ => throw error :
            EStateM KernelError LoadState PUnit).run after := by
  change (attempt body >>= _).run state = _
  rw [EStateM.run_bind]
  have same : (attempt body).run state = attempt body state := rfl
  rw [same]
  simp only [attempt]
  cases body.run state <;> rfl

/-- The directory goes away whether or not the body raises something. -/
theorem inTempdir_decided {condition : Prop} {body : EStateM KernelError LoadState PUnit}
    (decided : Decided (Answers environment start) condition body) :
    Decided (Answers environment start) (condition ∧ environment.cleanup = .ok ())
      (inTempdir environment body) := by
  constructor
  · rintro state kept ⟨holds, removed⟩
    rcases decided.returns state kept holds with ⟨value, after, ran, still⟩
    refine ⟨⟨⟩, after, ?_, still⟩
    rw [inTempdir_run, ran, removed]
    rfl
  · intro state kept fails
    by_cases holds : condition
    · rcases decided.returns state kept holds with ⟨value, after, ran, still⟩
      cases removed : environment.cleanup with
      | ok _ => exact absurd ⟨holds, removed⟩ fails
      | error error =>
          refine ⟨error, after, ?_⟩
          rw [inTempdir_run, ran, removed]
          rfl
    · rcases decided.raises state kept holds with ⟨raised, after, ran⟩
      cases removed : environment.cleanup with
      | ok _ =>
          refine ⟨raised, after, ?_⟩
          rw [inTempdir_run, ran, removed]
          rfl
      | error error =>
          refine ⟨error, after, ?_⟩
          rw [inTempdir_run, ran, removed]
          rfl

/-- What is done between the pause and its end is left by an exception, unless nothing is
raised. -/
theorem loadPaused_decided (listed : environment.listEnd = .ok ()) :
    Decided (Answers environment start) (kernel.Uneventful environment start)
      (kernel.loadPaused environment) := by
  apply Decided.ofEnds (Ends.reads environment.tempdir)
  · rintro error raised ⟨⟨tmpdirname, made, _⟩, _⟩
    rw [raised] at made
    cases made
  · intro tmpdirname made
    have rounds := Decided.loop fun module (_ : module ∈ environment.modules) =>
      @loadModule_decided kernel environment start tmpdirname module
    have body := rounds.andThen fun _ => Decided.raising environment.listEnd
    refine (inTempdir_decided body).congr ?_
    rw [listed]
    constructor
    · rintro ⟨⟨quiet, _⟩, removed⟩
      exact ⟨⟨tmpdirname, made, quiet⟩, removed⟩
    · rintro ⟨⟨other, same, quiet⟩, removed⟩
      rw [made] at same
      cases same
      exact ⟨⟨quiet, (), rfl⟩, removed⟩

theorem unpause_paused (responses : List Response) (state : CallbackState) :
    (unpause responses state).1.paused = false := by
  apply evaluateAll_preserves fun state => state.paused = false
  · intro callback response before _ unpaused
    rw [(evaluateLater_visited callback response before).paused]
    exact unpaused
  · exact fun _ unpaused => unpaused
  · rfl

/-- The end of the pause, whatever the callbacks raise. -/
theorem unpauseCallbacks_paused (state : LoadState) :
    (finalState ((unpauseCallbacks environment).run state)).callbacks.paused = false := by
  have unpaused := unpause_paused environment.responses state.callbacks
  change (finalState (unpauseCallbacks environment state)).callbacks.paused = false
  simp only [unpauseCallbacks]
  rcases ran : unpause environment.responses state.callbacks with ⟨callbacks, escape⟩
  rw [ran] at unpaused
  cases escape <;> exact unpaused

variable (kernel environment)

/-- The callbacks are not paused when the modules could not even be counted, or when nothing is
raised between the pause and its end. -/
def Resumes (state : LoadState) : Prop :=
  match environment.listEnd, environment.release with
  | .ok _, .ok _ => kernel.Uneventful environment state.cache
  | _, _ => state.callbacks.paused = false

variable {kernel environment}

/-- The state just after the pause. -/
def paused (state : LoadState) : LoadState :=
  { state with callbacks := pause state.callbacks }

theorem loadModules_run {release : PyString} (listed : environment.listEnd = .ok ())
    (released : environment.release = .ok release) (state : LoadState) :
    finalState ((kernel.loadModules environment).run state) =
      match (kernel.loadPaused environment).run (paused state) with
      | .ok _ after => finalState ((unpauseCallbacks environment).run
          { after with cache := { after.cache with findmap := SearchCache.empty.findmap } })
      | .error _ after => after := by
  simp only [loadModules]
  rw [listed, released]
  change finalState ((kernel.loadPaused environment >>= _).run (paused state)) = _
  rw [EStateM.run_bind]
  cases (kernel.loadPaused environment).run (paused state) <;> rfl

/-- The pause ends if nothing is raised in it. -/
theorem loadModules_paused_iff {release : PyString} (listed : environment.listEnd = .ok ())
    (released : environment.release = .ok release) (state : LoadState) :
    (finalState ((kernel.loadModules environment).run state)).callbacks.paused = false <->
      kernel.Uneventful environment state.cache := by
  have decided := @loadPaused_decided kernel environment state.cache listed
  have same : Answers environment state.cache (paused state) := FileTree.SameAnswers.refl _
  rw [loadModules_run listed released]
  by_cases quiet : kernel.Uneventful environment state.cache
  · rcases decided.returns (paused state) same quiet with ⟨value, after, ran, _⟩
    rw [ran]
    exact ⟨fun _ => quiet, fun _ => unpauseCallbacks_paused _⟩
  · rcases decided.raises (paused state) same quiet with ⟨error, after, ran⟩
    have frozen := @loadPaused_frozen kernel environment (paused state)
    rw [ran] at frozen
    have still : after.callbacks = pause state.callbacks := frozen rfl
    rw [ran]
    change after.callbacks.paused = false <-> _
    rw [still]
    exact ⟨fun impossible => Bool.noConfusion impossible, fun holds => absurd holds quiet⟩

variable (kernel environment)

/-- However `load_modules` ends, the callbacks are left paused exactly when something was raised
between the pause and its end, or when they had been paused before and no module was looked at.
Paused callbacks ignore all files that are loaded later. -/
theorem loadModules_resumes_iff (state : LoadState) :
    ((finalState ((kernel.loadModules environment).run state)).callbacks.paused = false <->
      kernel.Resumes environment state) ∧
    (¬ kernel.Resumes environment state -> forall calls,
      newObjfile calls (finalState ((kernel.loadModules environment).run state)).callbacks =
        (finalState ((kernel.loadModules environment).run state)).callbacks) := by
  have unpaused : (finalState ((kernel.loadModules environment).run state)).callbacks.paused = false <->
      kernel.Resumes environment state := by
    simp only [Resumes]
    cases listed : environment.listEnd with
    | error error =>
        simp only [loadModules]
        rw [listed]
        exact Iff.rfl
    | ok _ =>
        cases released : environment.release with
        | error error =>
            simp only [loadModules]
            rw [listed, released]
            exact Iff.rfl
        | ok release => exact loadModules_paused_iff listed released state
  refine ⟨unpaused, ?_⟩
  intro fails calls
  exact newObjfile_paused calls (Bool.of_not_eq_false fun holds => fails (unpaused.mp holds))

/-- The part of `Session.__init__` that loads the modules: whether the session goes on with what
comes after them.  Without its modules it is still there to be used. -/
def sessionLoadModules : EStateM KernelError LoadState Bool := do
  match ← attempt (kernel.loadModules environment) with
  | .ok _ => pure true
  | .error (.crashKernelError _) => pure false
  | .error error => throw error

/-- A kernel whose modules are all below one directory. -/
def oneDirectory : CrashKernel where
  vermagic := "5.3".toList
  modulePath := ["/lib".toList]
  moduleDebuginfoPath := []

/-- One module with a file of the right version that gdb refuses to load. -/
def refusedModule : LoadEnvironment where
  tree := {
    pathExists := fun path => path == "/lib/xfs.ko".toList
    readlines := fun _ => .ok ["xfs.ko".toList]
    walk := fun _ => [] }
  storage := {
    openFile := fun _ => .ok ("vermagic=5.3".toList.map fun character => UInt8.ofNat character.toNat)
    createFile := fun _ => .ok ()
    decompress := fun contents => .ok contents
    modinfo := fun contents => .ok (some contents)
    decode := fun line => some (line.map fun byte => Char.ofNat byte.toNat) }
  modules := [{
    name := .ok "xfs".toList
    srcversion := .ok none
    address := .ok 4096
    sections := .ok []
    percpu := .ok 0
    addSymbolFile := fun _ => .error (.gdbError "not in executable format".toList)
    lookupObjfile := fun _ => .error .other
    calls := [] }]
  listEnd := .ok ()
  release := .ok "5.3".toList
  tempdir := .ok "/tmp/t".toList
  cleanup := .ok ()
  responses := []

/-- A new kernel, with one callback that waits for symbols. -/
def oneCallback : LoadState where
  cache := SearchCache.empty
  callbacks := runOperations [.register { waitForTarget := false } .notReady]
  loaded := 0
  failed := 0

/-- The responses to a file that has the symbol the callback waits for. -/
def symbolFound : List (List Response) :=
  [[⟨.returned .true, .returned .true⟩]]

/-- The session outlives the module that was refused, but its callback does not see the next
file, which would have completed it before. -/
theorem sessionLoadModules_staysPaused :
    Exists fun after : LoadState =>
      (oneDirectory.loadModules refusedModule).run oneCallback = .error (.crashKernelError
          "Error while loading module `xfs': not in executable format".toList) after ∧
        (sessionLoadModules oneDirectory refusedModule).run oneCallback = .ok false after ∧
          after.callbacks.paused = true ∧ after.callbacks.pendingList = [0] ∧
            newObjfile symbolFound after.callbacks = after.callbacks ∧
              (newObjfile symbolFound oneCallback.callbacks).pendingList = [] :=
  ⟨_, rfl, rfl, rfl, rfl, rfl, rfl⟩

end CrashKernel

end Kernel
end CrashPython

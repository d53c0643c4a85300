import CrashPython.Infra.CallbackEvents
import CrashPython.Kernel.ModuleFiles
import CrashPython.Library.Frame
import Mathlib.Data.List.Infix

namespace CrashPython
namespace Kernel

open Library Infra

/-!
# The modules of a kernel

`load_modules` loads the file of every module, and its debuginfo if that is in another file.
Each file that gdb loads is an event for the callbacks that wait for symbols.  They are paused
while the modules are loaded, and evaluated at the end.

Some exceptions mean that another file is tried.  All others leave the loops, and there is no
handler on their way that ends the pause.
-/

/-- A file that gdb has loaded.  Separate debuginfo that gdb can read may bring symbols or
not. -/
structure Objfile where
  hasSymbols : Bool
  buildId : Option PyString
  addSeparateDebugFile : PyString -> Except KernelError Bool

/-- A `struct module`, what gdb makes of its file, and how the callbacks respond to the events of
the module. -/
structure Module where
  name : Except KernelError PyString
  srcversion : Except KernelError (Option PyString)
  address : Except KernelError Nat
  sections : Except KernelError (List (PyString × Nat))
  percpu : Except KernelError Nat
  addSymbolFile : PyString -> Except KernelError PyString
  lookupObjfile : PyString -> Except KernelError Objfile
  calls : List (List Response)

/-- The contents of files: how they are opened, decompressed and read as ELF files.  The section
`.modinfo` may be missing. -/
structure FileStorage where
  openFile : PyString -> Except KernelError (List UInt8)
  createFile : PyString -> Except KernelError Unit
  decompress : List UInt8 -> Except KernelError (List UInt8)
  modinfo : List UInt8 -> Except KernelError (Option (List UInt8))
  decode : List UInt8 -> Option PyString

/-- Everything that `load_modules` meets.  The list of modules is the same whenever it is gone
through. -/
structure LoadEnvironment where
  tree : FileTree
  storage : FileStorage
  modules : List Module
  listEnd : Except KernelError Unit
  release : Except KernelError PyString
  tempdir : Except KernelError PyString
  cleanup : Except KernelError Unit
  responses : List Response

/-- The attributes of `CrashKernel` that are read. -/
structure CrashKernel where
  vermagic : PyString
  modulePath : List PyString
  moduleDebuginfoPath : List PyString

/-- The caches of the kernel, the callbacks, and the numbers that are printed in the end. -/
structure LoadState where
  cache : SearchCache
  callbacks : CallbackState
  loaded : Nat
  failed : Nat

/-- `except (_ModinfoMismatchError, OSError)`. -/
def KernelError.skips : KernelError -> Bool
  | .noMatchingFile _ | .osError | .modVersionMismatch .. | .modSourceVersionMismatch .. => true
  | _ => false

/-- `"{:#x}"`. -/
def hexText (value : Nat) : PyString :=
  "0x".toList ++ Nat.toDigits 16 value

/-- A line of `.modinfo`. -/
def modinfoLine (decode : List UInt8 -> Option PyString)
    (modinfo : PyString -> Option PyString) (line : List UInt8) :
    Except KernelError (PyString -> Option PyString) :=
  match decode line with
  | none => .error .other
  | some [] => .ok modinfo
  | some val =>
      if '=' ∈ val then
        .ok (Function.update modinfo (val.take (val.idxOf '=')) (some (val.drop (val.idxOf '=' + 1))))
      else .error .other

/-- `extract_modinfo_from_module`. -/
def FileStorage.extractModinfo (storage : FileStorage) (contents : List UInt8) :
    Except KernelError (PyString -> Option PyString) := do
  match ← storage.modinfo contents with
  | none => .error .other
  | some data => (data.splitOn 0).foldlM (modinfoLine storage.decode) fun _ => none

/-- `_get_module_sections`. -/
def sectionsText (sections : List (PyString × Nat)) : PyString :=
  [' '].intercalate (sections.map fun entry => "-s ".toList ++ entry.1 ++ ' ' :: hexText entry.2)

/-- The command that loads a module. -/
def loadCommand (modpath : PyString) (address : Nat) (sections : List (PyString × Nat))
    (percpu : Nat) : PyString :=
  "add-symbol-file ".toList ++ modpath ++ ' ' :: hexText address ++ ' ' :: sectionsText sections ++
    (if 0 < percpu then " -s .data..percpu ".toList ++ hexText percpu else []) ++
    " -o 0xff000000".toList

/-- `gdb.error` becomes `CrashKernelError`. -/
def loadingError (modname : PyString) : KernelError -> KernelError
  | .gdbError message =>
      .crashKernelError ("Error while loading module `".toList ++ modname ++ "': ".toList ++ message)
  | error => error

namespace CrashKernel

variable (kernel : CrashKernel) (environment : LoadEnvironment)

/-- `_check_module_version`. -/
def checkModuleVersion (module : Module) (modpath : PyString) (contents : List UInt8) :
    Except KernelError Unit := do
  let modinfo ← environment.storage.extractModinfo contents
  let vermagic := modinfo "vermagic".toList
  if vermagic ≠ some kernel.vermagic then
    .error (.modVersionMismatch modpath vermagic kernel.vermagic)
  else
    let miSrcversion := modinfo "srcversion".toList
    let modSrcversion ← module.srcversion
    if miSrcversion ≠ modSrcversion then
      .error (.modSourceVersionMismatch modpath miSrcversion modSrcversion)
    else .ok ()

/-- `_try_load_module`, up to the command that gdb executes. -/
def executeLoad (module : Module) (modname modpath : PyString) (contents : List UInt8) :
    Except KernelError PyString := do
  kernel.checkModuleVersion environment module modpath contents
  let address ← module.address
  let sections ← module.sections
  let percpu ← module.percpu
  (module.addSymbolFile (loadCommand modpath address sections percpu)).mapError
    (loadingError modname)

/-- The file that `try_load_module` opens, or writes, and its contents. -/
def moduleContents (modname modpath tmpdirname : PyString) :
    Except KernelError (PyString × List UInt8) := do
  let contents ← environment.storage.openFile modpath
  if ".zst".toList <:+ modpath then
    let unpacked := pathJoin tmpdirname (modname ++ ".ko".toList)
    environment.storage.createFile unpacked
    let contents ← environment.storage.decompress contents
    .ok (unpacked, contents)
  else .ok (modpath, contents)

/-- gdb has loaded a file. -/
def newObjfileEvent (module : Module) : EStateM KernelError LoadState PUnit :=
  modify fun state => { state with callbacks := newObjfile module.calls state.callbacks }

/-- `try_load_module`. -/
def tryLoadModule (modname : PyString) (module : Module) (modpath tmpdirname : PyString) :
    EStateM KernelError LoadState Objfile := do
  let (path, contents) ← raising (moduleContents environment modname modpath tmpdirname)
  let _ ← raising (kernel.executeLoad environment module modname path contents)
  newObjfileEvent module
  raising (module.lookupObjfile path)

/-- `build_id_path`. -/
def buildIdPath (objfile : Objfile) : Option PyString :=
  objfile.buildId.map fun buildId =>
    ".build_id/".toList ++ buildId.take 2 ++ '/' :: buildId.drop 2 ++ ".debug".toList

/-- `_try_load_debuginfo`.  Separate debuginfo is an event of its own. -/
def tryLoadDebuginfo (module : Module) (objfile : Objfile) (path : PyString) :
    EStateM KernelError LoadState Bool :=
  if environment.tree.pathExists path then
    match objfile.addSeparateDebugFile path with
    | .error (.gdbError _) => pure false
    | .error error => throw error
    | .ok symbols => do
        newObjfileEvent module
        pure symbols
  else pure false

/-- A search in the caches, whose exception is caught. -/
def searching (search : SearchCache -> SearchCache × Except KernelError PyString) :
    EStateM KernelError LoadState (Except KernelError PyString) :=
  fun state => .ok (search state.cache).2 { state with cache := (search state.cache).1 }

/-- The first half of a round of `_load_module_debuginfo`. -/
def tryBuildId (module : Module) (objfile : Objfile) (path : PyString) :
    EStateM KernelError LoadState Bool :=
  match buildIdPath objfile with
  | some buildIdPath => tryLoadDebuginfo environment module objfile (path ++ '/' :: buildIdPath)
  | none => pure false

/-- The loop of `_load_module_debuginfo`. -/
def loadDebuginfoFrom (module : Module) (objfile : Objfile) (filename : PyString) :
    List PyString -> EStateM KernelError LoadState PUnit
  | [] => pure ⟨⟩
  | path :: rest => do
      if ← tryBuildId environment module objfile path then pure ⟨⟩
      else
        match ← searching (environment.tree.findModuleDebuginfoFile filename path) with
        | .error (.noMatchingFile _) => loadDebuginfoFrom module objfile filename rest
        | .error error => throw error
        | .ok filepath =>
            if ← tryLoadDebuginfo environment module objfile filepath then pure ⟨⟩
            else loadDebuginfoFrom module objfile filename rest

/-- The name of the debuginfo of a module file. -/
def debuginfoName (modpath : PyString) : PyString :=
  let modpath :=
    if ".gz".toList <:+: modpath then modpath.take (modpath.length - 3)
    else if ".zst".toList <:+: modpath then modpath.take (modpath.length - 4)
    else modpath
  basename modpath ++ ".debug".toList

/-- `_load_module_debuginfo`. -/
def loadModuleDebuginfo (module : Module) (objfile : Objfile) (modpath : PyString) :
    EStateM KernelError LoadState PUnit :=
  loadDebuginfoFrom environment module objfile (debuginfoName modpath) kernel.moduleDebuginfoPath

/-- Run a procedure and catch its exception. -/
def attempt {Value : Type} (procedure : EStateM KernelError LoadState Value) :
    EStateM KernelError LoadState (Except KernelError Value) :=
  fun state =>
    match procedure.run state with
    | .ok value after => .ok (.ok value) after
    | .error error after => .ok (.error error) after

/-- The loop over the directories in which a module may be. -/
def loadFrom (module : Module) (modname tmpdirname : PyString) :
    List PyString -> EStateM KernelError LoadState (Option Objfile)
  | [] => pure none
  | path :: rest => do
      match ← searching (environment.tree.findModuleFile (modname ++ ".ko".toList) path) with
      | .error (.noMatchingFile _) => loadFrom module modname tmpdirname rest
      | .error error => throw error
      | .ok modpath =>
          match ← attempt (kernel.tryLoadModule environment modname module modpath tmpdirname) with
          | .error error =>
              if error.skips then loadFrom module modname tmpdirname rest else throw error
          | .ok objfile =>
              if objfile.hasSymbols then pure (some objfile)
              else do
                kernel.loadModuleDebuginfo environment module objfile modpath
                pure (some objfile)

/-- The body of the loop over the modules. -/
def loadModule (tmpdirname : PyString) (module : Module) :
    EStateM KernelError LoadState PUnit := do
  let modname ← raising module.name
  match ← kernel.loadFrom environment module modname tmpdirname kernel.modulePath with
  | some _ => modify fun state => { state with loaded := state.loaded + 1 }
  | none => modify fun state => { state with failed := state.failed + 1 }

/-- `with tempfile.TemporaryDirectory()`, after the directory was made.  An exception while it
is removed takes the place of that of the body. -/
def inTempdir (body : EStateM KernelError LoadState PUnit) :
    EStateM KernelError LoadState PUnit := do
  match ← attempt body with
  | .ok _ => raising environment.cleanup
  | .error error => do
      raising environment.cleanup
      throw error

/-- `unpause_objfile_callbacks`. -/
def unpauseCallbacks : EStateM KernelError LoadState PUnit :=
  fun state =>
    match unpause environment.responses state.callbacks with
    | (callbacks, none) => .ok ⟨⟩ { state with callbacks }
    | (callbacks, some _) => .error .other { state with callbacks }

/-- Between the pause and its end. -/
def loadPaused : EStateM KernelError LoadState PUnit := do
  let tmpdirname ← raising environment.tempdir
  inTempdir environment do
    environment.modules.forM (kernel.loadModule environment tmpdirname)
    raising environment.listEnd

/-- `load_modules`.  The modules are counted first. -/
def loadModules : EStateM KernelError LoadState PUnit := do
  raising environment.listEnd
  let _ ← raising environment.release
  modify fun state => { state with callbacks := pause state.callbacks }
  kernel.loadPaused environment
  modify fun state => { state with cache := { state.cache with findmap := SearchCache.empty.findmap } }
  unpauseCallbacks environment

/-! ## The callbacks while they are paused -/

/-- Paused callbacks stay as they are. -/
def Frozen (before after : LoadState) : Prop :=
  before.callbacks.paused = true -> after.callbacks = before.callbacks

theorem frozen_accumulates : Accumulates Frozen where
  refl := fun _ _ => rfl
  trans := by
    intro first second third left right paused
    have same := left paused
    rw [right (by rw [same]; exact paused), same]

variable {kernel environment}

theorem raising_frozen {Value : Type} (read : Except KernelError Value) :
    Evolves Frozen (raising read : EStateM KernelError LoadState Value) := by
  cases read <;> exact frozen_accumulates.refl

theorem attempt_frozen {Value : Type} {procedure : EStateM KernelError LoadState Value}
    (frozen : Evolves Frozen procedure) : Evolves Frozen (attempt procedure) := by
  intro state
  have step := frozen state
  change Frozen state (finalState (attempt procedure state))
  simp only [attempt]
  cases ran : procedure.run state with
  | ok value after =>
      rw [ran] at step
      exact step
  | error error after =>
      rw [ran] at step
      exact step

theorem newObjfileEvent_frozen (module : Module) : Evolves Frozen (newObjfileEvent module) :=
  Evolves.update fun _ paused => newObjfile_paused module.calls paused

theorem searching_frozen (search : SearchCache -> SearchCache × Except KernelError PyString) :
    Evolves Frozen (searching search) :=
  fun _ _ => rfl

theorem tryLoadModule_frozen (modname : PyString) (module : Module) (modpath tmpdirname : PyString) :
    Evolves Frozen (kernel.tryLoadModule environment modname module modpath tmpdirname) := by
  apply Evolves.reads frozen_accumulates
  rintro ⟨path, contents⟩
  apply Evolves.reads frozen_accumulates
  intro output
  exact Evolves.andThen frozen_accumulates (newObjfileEvent_frozen module) fun _ =>
    raising_frozen (module.lookupObjfile path)

theorem tryLoadDebuginfo_frozen (module : Module) (objfile : Objfile) (path : PyString) :
    Evolves Frozen (tryLoadDebuginfo environment module objfile path) := by
  simp only [tryLoadDebuginfo]
  cases environment.tree.pathExists path with
  | false => exact Evolves.returns frozen_accumulates false
  | true =>
      cases objfile.addSeparateDebugFile path with
      | ok symbols =>
          exact Evolves.andThen frozen_accumulates (newObjfileEvent_frozen module) fun _ =>
            Evolves.returns frozen_accumulates symbols
      | error error =>
          cases error <;> exact frozen_accumulates.refl

theorem loadDebuginfoFrom_frozen (module : Module) (objfile : Objfile) (filename : PyString)
    (paths : List PyString) :
    Evolves Frozen (loadDebuginfoFrom environment module objfile filename paths) := by
  induction paths with
  | nil => exact frozen_accumulates.refl
  | cons path rest inductionHypothesis =>
      simp only [loadDebuginfoFrom]
      apply Evolves.andThen frozen_accumulates
      · simp only [tryBuildId]
        cases buildIdPath objfile with
        | none => exact Evolves.returns frozen_accumulates false
        | some buildIdPath => exact tryLoadDebuginfo_frozen module objfile _
      · intro byBuildId
        cases byBuildId with
        | true => exact frozen_accumulates.refl
        | false =>
            apply Evolves.andThen frozen_accumulates (searching_frozen _)
            intro answer
            cases answer with
            | ok filepath =>
                apply Evolves.andThen frozen_accumulates (tryLoadDebuginfo_frozen module objfile _)
                intro symbols
                cases symbols with
                | true => exact frozen_accumulates.refl
                | false => exact inductionHypothesis
            | error error =>
                cases error with
                | noMatchingFile name => exact inductionHypothesis
                | _ => exact frozen_accumulates.refl

theorem loadFrom_frozen (module : Module) (modname tmpdirname : PyString) (paths : List PyString) :
    Evolves Frozen (kernel.loadFrom environment module modname tmpdirname paths) := by
  induction paths with
  | nil => exact Evolves.returns frozen_accumulates none
  | cons path rest inductionHypothesis =>
      simp only [loadFrom]
      apply Evolves.andThen frozen_accumulates (searching_frozen _)
      intro answer
      cases answer with
      | error error =>
          cases error with
          | noMatchingFile name => exact inductionHypothesis
          | _ => exact frozen_accumulates.refl
      | ok modpath =>
          apply Evolves.andThen frozen_accumulates (attempt_frozen (tryLoadModule_frozen _ _ _ _))
          intro loaded
          cases loaded with
          | error error =>
              cases skips : error.skips with
              | true =>
                  simp only [skips]
                  exact inductionHypothesis
              | false =>
                  simp only [skips]
                  exact frozen_accumulates.refl
          | ok objfile =>
              cases symbols : objfile.hasSymbols with
              | true =>
                  simp only [symbols]
                  exact frozen_accumulates.refl
              | false =>
                  simp only [symbols]
                  exact Evolves.andThen frozen_accumulates (loadDebuginfoFrom_frozen _ _ _ _)
                    fun _ => Evolves.returns frozen_accumulates (some objfile)

/-- Nothing that is done for a module touches paused callbacks. -/
theorem loadModule_frozen (tmpdirname : PyString) (module : Module) :
    Evolves Frozen (kernel.loadModule environment tmpdirname module) := by
  apply Evolves.reads frozen_accumulates
  intro modname
  apply Evolves.andThen frozen_accumulates (loadFrom_frozen module modname tmpdirname _)
  intro objfile
  cases objfile with
  | none => exact fun _ _ => rfl
  | some objfile => exact fun _ _ => rfl

theorem loadPaused_frozen : Evolves Frozen (kernel.loadPaused environment) := by
  apply Evolves.reads frozen_accumulates
  intro tmpdirname
  apply Evolves.andThen frozen_accumulates
  · apply attempt_frozen
    apply Evolves.andThen frozen_accumulates
    · exact Evolves.loop frozen_accumulates (loadModule_frozen tmpdirname)
    · exact fun _ => raising_frozen environment.listEnd
  · intro ended
    cases ended with
    | ok _ => exact raising_frozen environment.cleanup
    | error error =>
        exact Evolves.reads frozen_accumulates fun _ => frozen_accumulates.refl

end CrashKernel

end Kernel
end CrashPython

import CrashPython.Cache.KernelConfig
import CrashPython.Infra.Callback
import CrashPython.Library.IntText
import CrashPython.Types.PageSetup

namespace CrashPython
namespace Types

open Library Cache

/-!
# The width of node numbers

`setup_nodes_width` asks the kernel configuration for `NODES_SHIFT`, and takes eight bits if
the answer is a `KeyError` or a `DelayedAttributeError`.  The configuration gives neither for
a key that it does not have: `__getitem__` turns the `KeyError` of its dictionary into `None`,
and `int` does not take `None`.  The `TypeError` is not caught here, and `evaluate` does not
catch it either.

The text of the configuration is decompressed when it is first needed, which can fail, and
kept unless it is empty.  Earlier reads therefore decide whether this one can fail.
-/

/-- The exceptions that reach `setup_nodes_width`. -/
inductive WidthError where
  | keyError
  | delayedAttribute (name : String)
  | typeError
  | valueError
  | ioError
deriving DecidableEq, Repr

/-- `except (KeyError, DelayedAttributeError)`. -/
def WidthError.caught : WidthError -> Bool
  | .keyError => true
  | .delayedAttribute _ => true
  | _ => false

namespace ConfigImage

/-! ## The configuration before its text is known -/

/-- The property `config_buffer`, for what `_decompress_config_buffer` gives. -/
def configBuffer (image : Except WidthError PyString) (config : CrashConfigCache) :
    Except WidthError PyString × CrashConfigCache :=
  if config.configBuffer = [] then
    match image with
    | .error error => (.error error, config)
    | .ok text => (.ok text, { config with configBuffer := text })
  else (.ok config.configBuffer, config)

/-- The property `ikconfig_cache`. -/
def ikconfigCache (image : Except WidthError PyString) (config : CrashConfigCache) :
    Except WidthError ConfigDict × CrashConfigCache :=
  if config.cache = [] then
    match configBuffer image config with
    | (.error error, config) => (.error error, config)
    | (.ok text, config) =>
        (.ok (parseConfig text config.cache), { config with cache := parseConfig text config.cache })
  else (.ok config.cache, config)

/-- `__getitem__`, where `None` stands for a key that is not there. -/
def getitem (image : Except WidthError PyString) (name : PyString) (config : CrashConfigCache) :
    Except WidthError (Option PyString) × CrashConfigCache :=
  match ikconfigCache image config with
  | (.error error, config) => (.error error, config)
  | (.ok cache, config) => (.ok (cache.lookup name), config)

/-- Some reads, each with what the image gives at that time. -/
def reads (earlier : List (Except WidthError PyString × PyString)) (config : CrashConfigCache) :
    CrashConfigCache :=
  earlier.foldl (fun config read => (getitem read.1 read.2 config).2) config

/-- An image that has this text, if it can be read yet. -/
def Holds (text : PyString) (image : Except WidthError PyString) : Prop :=
  image = .ok text ∨ Exists fun name : String => image = .error (.delayedAttribute name)

/-- The text is there, or it was read before. -/
def Available (image : Except WidthError PyString) (config : CrashConfigCache) : Prop :=
  config.configBuffer ≠ [] ∨ image.isOk = true

instance (image : Except WidthError PyString) (config : CrashConfigCache) :
    Decidable (Available image config) :=
  inferInstanceAs (Decidable (_ ∨ _))

/-- What is kept was read from this text. -/
structure ReadFrom (text : PyString) (config : CrashConfigCache) : Prop where
  buffer : config.configBuffer = [] ∨ config.configBuffer = text
  cache : config.cache = [] ∨ config.cache = parseConfig text []
  unread : config.configBuffer = [] -> config.cache = []

variable {text : PyString} {image : Except WidthError PyString} {config : CrashConfigCache}

theorem ReadFrom.start : ReadFrom text { configBuffer := [] } :=
  ⟨Or.inl rfl, Or.inl rfl, fun _ => rfl⟩

/-- Once a text was read, a read is that of the configuration with this text. -/
theorem getitem_eq (read : config.configBuffer ≠ []) (name : PyString) :
    ConfigImage.getitem image name config =
      (.ok (config.getitem name).1, (config.getitem name).2) := by
  simp only [ConfigImage.getitem, ConfigImage.ikconfigCache, ConfigImage.configBuffer,
    CrashConfigCache.getitem, CrashConfigCache.ikconfigCache, if_neg read]
  by_cases empty : config.cache = []
  · simp only [if_pos empty]
  · simp only [if_neg empty]

/-- A text that is kept is the text, and so is the dictionary. -/
theorem ReadFrom.filled (read : ReadFrom text config) (kept : config.configBuffer ≠ []) :
    CrashConfigCache.Filled text config :=
  ⟨read.buffer.resolve_left kept, read.cache⟩

theorem ReadFrom.of_filled (filled : CrashConfigCache.Filled text config) : ReadFrom text config where
  buffer := Or.inr filled.1
  cache := filled.2
  unread := by
    intro empty
    rcases filled with ⟨same, nothing | parsed⟩
    · exact nothing
    · rw [parsed, ← same, empty]
      rfl

/-- A read of a text that was not read before is a read of what the image gives. -/
theorem getitem_image (unread : config.configBuffer = []) (nothing : config.cache = [])
    (name : PyString) :
    ConfigImage.getitem (.ok text) name config =
      (.ok ({ config with configBuffer := text }.getitem name).1,
        ({ config with configBuffer := text }.getitem name).2) := by
  simp only [ConfigImage.getitem, ConfigImage.ikconfigCache, ConfigImage.configBuffer,
    CrashConfigCache.getitem, CrashConfigCache.ikconfigCache, if_pos unread, if_pos nothing]

/-- What a read answers. -/
theorem ReadFrom.getitem (read : ReadFrom text config) (holds : Holds text image)
    (name : PyString) :
    (Available image config ∧ Exists fun after : CrashConfigCache => ReadFrom text after ∧
        ConfigImage.getitem image name config = (.ok ((parseConfig text []).lookup name), after)) ∨
      (¬ Available image config ∧ Exists fun missed : String =>
        ConfigImage.getitem image name config = (.error (.delayedAttribute missed), config)) := by
  by_cases kept : config.configBuffer = []
  · have nothing := read.unread kept
    rcases holds with found | ⟨missed, missing⟩
    · subst found
      have filled : CrashConfigCache.Filled text { config with configBuffer := text } :=
        ⟨rfl, Or.inl nothing⟩
      refine Or.inl ⟨Or.inr rfl, _, ReadFrom.of_filled filled.ikconfigCache.1, ?_⟩
      rw [getitem_image kept nothing, CrashConfigCache.getitem, filled.ikconfigCache.2]
    · subst missing
      refine Or.inr ⟨?_, missed, ?_⟩
      · rintro (there | there)
        · exact there kept
        · cases there
      · simp only [ConfigImage.getitem, ConfigImage.ikconfigCache, ConfigImage.configBuffer,
          if_pos kept, if_pos nothing]
  · have filled := read.filled kept
    refine Or.inl ⟨Or.inl kept, _, ReadFrom.of_filled filled.ikconfigCache.1, ?_⟩
    rw [getitem_eq kept, CrashConfigCache.getitem, filled.ikconfigCache.2]

/-- Any reads of one text. -/
theorem ReadFrom.reads (read : ReadFrom text config)
    (earlier : List (Except WidthError PyString × PyString))
    (same : forall past, past ∈ earlier -> Holds text past.1) :
    ReadFrom text (ConfigImage.reads earlier config) := by
  induction earlier generalizing config with
  | nil => exact read
  | cons past earlier inductionHypothesis =>
      have later : ReadFrom text (ConfigImage.getitem past.1 past.2 config).2 := by
        rcases read.getitem (same past List.mem_cons_self) past.2 with
          ⟨_, after, kept, found⟩ | ⟨_, missed, failed⟩
        · rw [found]
          exact kept
        · rw [failed]
          exact read
      exact inductionHypothesis later fun other member => same other (List.mem_cons_of_mem _ member)

end ConfigImage

/-! ## The callback -/

/-- What `setup_nodes_width` finds: the configuration, the size of `unsigned long`, and the
number of digits that the interpreter reads. -/
structure WidthKernel where
  image : Except WidthError PyString
  unsignedLongSizeof : Except WidthError Nat
  intMaxStrDigits : Nat

/-- What it leaves: the attributes, the configuration, the printed lines, and the exception
that it raises, if any. -/
structure WidthRun where
  cls : PageState
  config : CrashConfigCache
  printed : List String := []
  error : Option WidthError := none

namespace WidthKernel

variable (kernel : WidthKernel)

/-- `int` of what the configuration answers. -/
def intOf : Option PyString -> Except WidthError Int
  | none => .error .typeError
  | some text =>
      match PyString.toInt kernel.intMaxStrDigits text with
      | none => .error .valueError
      | some number => .ok number

/-- The end of `setup_nodes_width`, after the `try` statement. -/
def setBitsPerLong (run : WidthRun) : WidthRun :=
  match kernel.unsignedLongSizeof with
  | .error error => { run with error := some error }
  | .ok size => { run with cls := { run.cls with bitsPerLong := (size * 8 : Nat) } }

/-- `setup_nodes_width`. -/
def setupNodesWidth (cls : PageState) (config : CrashConfigCache) : WidthRun :=
  match ConfigImage.getitem kernel.image "NODES_SHIFT".toList config with
  | (answer, config) =>
      match answer >>= kernel.intOf with
      | .ok width => kernel.setBitsPerLong { cls := { cls with nodesWidth := width }, config := config }
      | .error error =>
          if error.caught then
            kernel.setBitsPerLong
              { cls := { cls with nodesWidth := 8 }
                config := config
                printed := ["Unable to determine NODES_SHIFT from config, trying 8"] }
          else { cls := cls, config := config, error := some error }

end WidthKernel

/-- The value of `NODES_SHIFT` in a text. -/
def nodesShift (text : PyString) : Option PyString :=
  (parseConfig text []).lookup "NODES_SHIFT".toList

/-- The width that a configuration calls for: its integer, or else eight. -/
inductive PromisedWidth (text : PyString) (available : Prop) : Int -> Prop
  | configured {value : PyString} {number : Int} (here : available)
      (set : nodesShift text = some value) (reads : PyString.integer value = some number) :
      PromisedWidth text available number
  | absent (here : available) (unset : nodesShift text = none) : PromisedWidth text available 8
  | unavailable (missing : ¬ available) : PromisedWidth text available 8

/-- No exception, the width that the configuration calls for, and the size of a word. -/
structure SetsWidths (kernel : WidthKernel) (text : PyString) (config : CrashConfigCache)
    (run : WidthRun) : Prop where
  completes : run.error = none
  width : PromisedWidth text (ConfigImage.Available kernel.image config) run.cls.nodesWidth
  bits : Exists fun size : Nat =>
    kernel.unsignedLongSizeof = .ok size ∧ run.cls.bitsPerLong = (size * 8 : Nat)

/-- The size of `unsigned long` is known, and if the configuration can be read, it has
`NODES_SHIFT`, with no more digits than the interpreter reads. -/
structure FindsWidth (kernel : WidthKernel) (text : PyString) (config : CrashConfigCache) : Prop where
  size : Exists fun size : Nat => kernel.unsignedLongSizeof = .ok size
  shift : ConfigImage.Available kernel.image config -> Exists fun value : PyString =>
    nodesShift text = some value ∧ ¬ PyString.TooLong kernel.intMaxStrDigits value

/-! ## How a call ends -/

section Calls

variable {kernel : WidthKernel} {text : PyString} {cls : PageState} {config after : CrashConfigCache}

/-- With a known size the end of the call raises nothing. -/
theorem setBitsPerLong_known {size : Nat} (known : kernel.unsignedLongSizeof = .ok size)
    (run : WidthRun) :
    kernel.setBitsPerLong run = { run with cls := { run.cls with bitsPerLong := (size * 8 : Nat) } } := by
  rw [WidthKernel.setBitsPerLong, known]

/-- Without it the call ends in an exception. -/
theorem setBitsPerLong_completes {run : WidthRun} (completes : (kernel.setBitsPerLong run).error = none) :
    Exists fun size : Nat => kernel.unsignedLongSizeof = .ok size := by
  cases known : kernel.unsignedLongSizeof with
  | ok size => exact ⟨size, rfl⟩
  | error error =>
      rw [WidthKernel.setBitsPerLong, known] at completes
      cases completes

/-- The configuration has an integer. -/
theorem setupNodesWidth_configured {value : PyString} {number : Int}
    (found : ConfigImage.getitem kernel.image "NODES_SHIFT".toList config = (.ok (some value), after))
    (reads : PyString.toInt kernel.intMaxStrDigits value = some number) :
    kernel.setupNodesWidth cls config =
      kernel.setBitsPerLong { cls := { cls with nodesWidth := number }, config := after } := by
  have converted : (Except.ok (some value) >>= kernel.intOf) = .ok number := by
    change kernel.intOf (some value) = .ok number
    simp only [WidthKernel.intOf, reads]
  simp only [WidthKernel.setupNodesWidth, found, converted]

/-- The configuration has a text that is refused. -/
theorem setupNodesWidth_refused {value : PyString}
    (found : ConfigImage.getitem kernel.image "NODES_SHIFT".toList config = (.ok (some value), after))
    (refused : PyString.toInt kernel.intMaxStrDigits value = none) :
    kernel.setupNodesWidth cls config =
      { cls := cls, config := after, error := some .valueError } := by
  have converted : (Except.ok (some value) >>= kernel.intOf) = .error .valueError := by
    change kernel.intOf (some value) = .error .valueError
    simp only [WidthKernel.intOf, refused]
  simp only [WidthKernel.setupNodesWidth, found, converted]
  rfl

/-- The configuration does not have the key: the `TypeError` escapes and no attribute is set. -/
theorem setupNodesWidth_absent
    (found : ConfigImage.getitem kernel.image "NODES_SHIFT".toList config = (.ok none, after)) :
    kernel.setupNodesWidth cls config =
      { cls := cls, config := after, error := some .typeError } := by
  simp only [WidthKernel.setupNodesWidth, found]
  rfl

/-- The configuration is not there yet. -/
theorem setupNodesWidth_unavailable {name : String}
    (failed : ConfigImage.getitem kernel.image "NODES_SHIFT".toList config =
      (.error (.delayedAttribute name), after)) :
    kernel.setupNodesWidth cls config =
      kernel.setBitsPerLong
        { cls := { cls with nodesWidth := 8 }
          config := after
          printed := ["Unable to determine NODES_SHIFT from config, trying 8"] } := by
  simp only [WidthKernel.setupNodesWidth, failed]
  rfl

/-- A call that completes found what it needs. -/
theorem FindsWidth.of_completes (read : ConfigImage.ReadFrom text config)
    (holds : ConfigImage.Holds text kernel.image)
    (completes : (kernel.setupNodesWidth cls config).error = none) :
    FindsWidth kernel text config := by
  rcases read.getitem holds "NODES_SHIFT".toList with
    ⟨available, after, _, found⟩ | ⟨missing, missed, failed⟩
  · change ConfigImage.getitem _ _ _ = (.ok (nodesShift text), after) at found
    cases shift : nodesShift text with
    | none =>
        rw [shift] at found
        rw [setupNodesWidth_absent found] at completes
        cases completes
    | some value =>
        rw [shift] at found
        cases converted : PyString.toInt kernel.intMaxStrDigits value with
        | none =>
            rw [setupNodesWidth_refused found converted] at completes
            cases completes
        | some number =>
            rw [setupNodesWidth_configured found converted] at completes
            refine ⟨setBitsPerLong_completes completes, fun _ => ⟨value, shift, ?_⟩⟩
            intro long
            rw [PyString.toInt, if_pos long] at converted
            cases converted
  · rw [setupNodesWidth_unavailable failed] at completes
    exact ⟨setBitsPerLong_completes completes, fun available => absurd available missing⟩

/-- A call that finds what it needs sets both attributes. -/
theorem FindsWidth.setsWidths (finds : FindsWidth kernel text config)
    (read : ConfigImage.ReadFrom text config) (holds : ConfigImage.Holds text kernel.image)
    (decimal : forall value, nodesShift text = some value ->
      Exists fun number : Int => PyString.integer value = some number) :
    SetsWidths kernel text config (kernel.setupNodesWidth cls config) := by
  rcases finds.size with ⟨size, known⟩
  rcases read.getitem holds "NODES_SHIFT".toList with
    ⟨available, after, _, found⟩ | ⟨missing, missed, failed⟩
  · rcases finds.shift available with ⟨value, shift, short⟩
    rcases decimal value shift with ⟨number, reads⟩
    change ConfigImage.getitem _ _ _ = (.ok (nodesShift text), after) at found
    rw [shift] at found
    have converted : PyString.toInt kernel.intMaxStrDigits value = some number := by
      rw [PyString.toInt, if_neg short, reads]
    rw [setupNodesWidth_configured found converted, setBitsPerLong_known known]
    exact ⟨rfl, .configured available shift reads, size, known, rfl⟩
  · rw [setupNodesWidth_unavailable failed, setBitsPerLong_known known]
    exact ⟨rfl, .unavailable missing, size, known, rfl⟩

end Calls

/-- The callback completes, with both attributes as they should be, if and only if the size
of `unsigned long` is known and a configuration that can be read has `NODES_SHIFT`. -/
theorem setsWidths_iff (kernel : WidthKernel) (text : PyString)
    (holds : ConfigImage.Holds text kernel.image)
    (decimal : forall value, nodesShift text = some value ->
      Exists fun number : Int => PyString.integer value = some number)
    (earlier : List (Except WidthError PyString × PyString))
    (same : forall past, past ∈ earlier -> ConfigImage.Holds text past.1) (cls : PageState) :
    SetsWidths kernel text (ConfigImage.reads earlier { configBuffer := [] })
        (kernel.setupNodesWidth cls (ConfigImage.reads earlier { configBuffer := [] })) <->
      FindsWidth kernel text (ConfigImage.reads earlier { configBuffer := [] }) := by
  have read := (@ConfigImage.ReadFrom.start text).reads earlier same
  constructor
  · intro sets
    exact FindsWidth.of_completes read holds sets.completes
  · intro finds
    exact finds.setsWidths read holds decimal

/-- A configuration that was read before, for its `HZ`. -/
def manyNodesText : PyString :=
  "CONFIG_HZ=250\nCONFIG_NODES_SHIFT=10\n".toList

/-- The kernel with this configuration. -/
def manyNodesKernel : WidthKernel :=
  ⟨.ok manyNodesText, .ok 8, 4300⟩

theorem nodesShift_manyNodes : nodesShift manyNodesText = some "10".toList :=
  rfl

/-- Ten bits for node numbers. -/
theorem setsWidths_iff_manyNodes :
    SetsWidths manyNodesKernel manyNodesText
      (ConfigImage.reads [(.ok manyNodesText, "HZ".toList)] { configBuffer := [] })
      (manyNodesKernel.setupNodesWidth {}
        (ConfigImage.reads [(.ok manyNodesText, "HZ".toList)] { configBuffer := [] })) := by
  apply (setsWidths_iff manyNodesKernel manyNodesText (Or.inl rfl) ?_ _ ?_ {}).mpr
  · refine ⟨⟨8, rfl⟩, fun _ => ⟨"10".toList, nodesShift_manyNodes, ?_⟩⟩
    decide
  · intro value set
    rw [nodesShift_manyNodes] at set
    exact ⟨10, Option.some.inj set ▸ rfl⟩
  · intro past member
    rw [List.mem_singleton.mp member]
    exact Or.inl rfl

/-- A kernel for one node: its configuration has no `NODES_SHIFT`. -/
def oneNodeText : PyString :=
  "CONFIG_SMP=y\n# CONFIG_NUMA is not set\n".toList

/-- The kernel with this configuration. -/
def oneNodeKernel : WidthKernel :=
  ⟨.ok oneNodeText, .ok 8, 4300⟩

/-- The configuration is there, it has no `NODES_SHIFT`, and the callback raises an exception. -/
theorem not_setsWidths_oneNode :
    nodesShift oneNodeText = none ∧
      ¬ SetsWidths oneNodeKernel oneNodeText { configBuffer := [] }
        (oneNodeKernel.setupNodesWidth {} { configBuffer := [] }) := by
  refine ⟨rfl, ?_⟩
  intro sets
  have raised : (oneNodeKernel.setupNodesWidth {} { configBuffer := [] }).error = some .typeError :=
    rfl
  rw [sets.completes] at raised
  cases raised

/-! ## The callback among the others -/

/-- A kernel of `PageSetup`, where the width is known or the configuration cannot be read. -/
structure WidthKernel.Matches (kernel : WidthKernel) (page : PageKernel) (text : PyString)
    (config : CrashConfigCache) : Prop where
  size : kernel.unsignedLongSizeof = .ok page.unsignedLongSizeof
  shift : ConfigImage.Available kernel.image config -> Exists fun value : PyString =>
    nodesShift text = some value ∧ ¬ PyString.TooLong kernel.intMaxStrDigits value ∧
      PyString.integer value = page.nodesShift ∧ page.nodesShift.isSome = true
  unavailable : ¬ ConfigImage.Available kernel.image config -> page.nodesShift = none

/-- There the callback does what `PageSetup` says. -/
theorem WidthKernel.Matches.setupNodesWidth {kernel : WidthKernel} {page : PageKernel}
    {text : PyString} {config : CrashConfigCache} (same : kernel.Matches page text config)
    (read : ConfigImage.ReadFrom text config) (holds : ConfigImage.Holds text kernel.image)
    (cls : PageState) :
    (kernel.setupNodesWidth cls config).cls = (page.setupNodesWidth cls).1 ∧
      (kernel.setupNodesWidth cls config).error = none := by
  rcases read.getitem holds "NODES_SHIFT".toList with
    ⟨available, after, _, found⟩ | ⟨missing, missed, failed⟩
  · rcases same.shift available with ⟨value, shift, short, reads, set⟩
    rcases Option.isSome_iff_exists.mp set with ⟨number, width⟩
    change ConfigImage.getitem _ _ _ = (.ok (nodesShift text), after) at found
    rw [shift] at found
    have converted : PyString.toInt kernel.intMaxStrDigits value = some number := by
      rw [PyString.toInt, if_neg short, reads, width]
    rw [setupNodesWidth_configured found converted, setBitsPerLong_known same.size,
      PageKernel.setupNodesWidth, width]
    exact ⟨rfl, rfl⟩
  · rw [setupNodesWidth_unavailable failed, setBitsPerLong_known same.size,
      PageKernel.setupNodesWidth, same.unavailable missing]
    exact ⟨rfl, rfl⟩

/-- The body of the callback object: it returns `None` or raises. -/
def WidthRun.script (run : WidthRun) : Infra.Script :=
  match run.error with
  | none => .returned .none
  | some _ => .raised .other

/-- An exception of the callback escapes from `evaluate`. -/
theorem evaluateLater_escapes {run : WidthRun} (raises : run.error ≠ none) (callback : Nat)
    {state : Infra.CallbackState} (called : (state.object callback).waitingForTarget = false) :
    (Infra.evaluateLater callback ⟨.returned .object, run.script⟩ state).2 = some .other := by
  cases raised : run.error with
  | none => exact absurd raised raises
  | some error =>
      simp only [Infra.evaluateLater, Infra.evaluate, called, WidthRun.script, raised,
        Infra.PyAnswer.notReady, Infra.Script.run, Bool.false_eq_true, if_false]

end Types
end CrashPython

import CrashPython.Library.Lines

namespace CrashPython
namespace Cache

open Library

/-!
# The kernel configuration

`CrashConfigCache` of `crash/cache/syscache.py` parses the text of the kernel configuration.
It takes from each line what stands before the first `#`, strips white space, and looks for
`CONFIG_`, a key, an equals sign and a value.

A `#` begins a comment for the parser wherever it stands.  In a kernel configuration it does
so only at the beginning of a line, and values are often quoted strings that may contain it.
-/

/-- A dictionary, as its assignments with the latest first. -/
abbrev ConfigDict := List (PyString × PyString)

/-- What is left of a line without a comment: `re.sub("#.*$", "", line)`. -/
def uncommented (line : PyString) : PyString :=
  line.takeWhile fun character => character ≠ '#'

/-- The two groups of `re.match("CONFIG_([^=]*)=(.*)", line)`. -/
def configMatch (line : PyString) : Option (PyString × PyString) :=
  if "CONFIG_".toList <+: line then
    let rest := line.drop 7
    match rest.dropWhile fun character => character ≠ '=' with
    | [] => none
    | _ :: value => some (rest.takeWhile fun character => character ≠ '=', value)
  else none

/-- What one line assigns. -/
def parseLine (line : PyString) : Option (PyString × PyString) :=
  let line := PyString.strip (uncommented line)
  if line = [] then none else configMatch line

/-- `_parse_config`. -/
def parseConfig (configBuffer : PyString) (cache : ConfigDict) : ConfigDict :=
  (PyString.splitlines configBuffer).foldl (fun cache line =>
    match parseLine line with
    | none => cache
    | some assigned => assigned :: cache) cache

/-- The cache, with the text that was decompressed. -/
structure CrashConfigCache where
  configBuffer : PyString
  cache : ConfigDict := []
deriving DecidableEq, Repr

namespace CrashConfigCache

/-- The property `ikconfig_cache`, which parses the text as long as there is nothing in the
cache. -/
def ikconfigCache (config : CrashConfigCache) : CrashConfigCache :=
  if config.cache = [] then { config with cache := parseConfig config.configBuffer config.cache }
  else config

/-- `__getitem__`. -/
def getitem (name : PyString) (config : CrashConfigCache) : Option PyString × CrashConfigCache :=
  (config.ikconfigCache.cache.lookup name, config.ikconfigCache)

/-- Some reads, one after another. -/
def reads (names : List PyString) (config : CrashConfigCache) : CrashConfigCache :=
  names.foldl (fun config name => (config.getitem name).2) config

end CrashConfigCache

/-! ## Configurations as they are written -/

/-- A line that sets a key.  A printable character is no line break. -/
structure ConfigEntry where
  key : PyString
  value : PyString
  key_ne_nil : key ≠ []
  key_plain : forall character, character ∈ key -> character ≠ '=' ∧ PyString.isSpace character = false
  value_unbroken : PyString.Unbroken value
  value_first : forall character, value.head? = some character -> PyString.isSpace character = false
  value_last : forall character, value.getLast? = some character -> PyString.isSpace character = false

/-- A line of a configuration. -/
inductive ConfigLine where
  | sets (entry : ConfigEntry)
  | comment (text : PyString) (unbroken : PyString.Unbroken text)
  | blank (text : PyString) (unbroken : PyString.Unbroken text)
      (white : forall character, character ∈ text -> PyString.isSpace character = true)

namespace ConfigLine

/-- The line as it is written. -/
def text : ConfigLine -> PyString
  | .sets entry => "CONFIG_".toList ++ entry.key ++ '=' :: entry.value
  | .comment text _ => '#' :: text
  | .blank text _ _ => text

/-- The value that a line sets a key to. -/
def valueFor (key : PyString) : ConfigLine -> Option PyString
  | .sets entry => if entry.key = key then some entry.value else none
  | .comment _ _ => none
  | .blank _ _ _ => none

end ConfigLine

/-- The text of some lines.  The last line is ended by a line feed if a blank line follows it. -/
def configText (lines : List ConfigLine) : PyString :=
  ['\n'].intercalate (lines.map ConfigLine.text)

/-- The value of the last line for a key. -/
def lastValue (lines : List ConfigLine) (key : PyString) : Option PyString :=
  (lines.filterMap (ConfigLine.valueFor key)).getLast?

/-- Whatever is read before, a key has the value of its last line, and no value if it has no
line. -/
def ReadsLastValues (lines : List ConfigLine) : Prop :=
  forall (earlier : List PyString) (key : PyString),
    (CrashConfigCache.getitem key (CrashConfigCache.reads earlier { configBuffer := configText lines })).1 =
      lastValue lines key

/-- No key with a line contains `#`, and neither does the value of its last line. -/
def NoHashes (lines : List ConfigLine) : Prop :=
  forall key value, lastValue lines key = some value -> '#' ∉ key ∧ '#' ∉ value

/-! ## One line -/

/-- What the parser makes of a value. -/
def cutValue (value : PyString) : PyString :=
  PyString.rstrip (uncommented value)

theorem notMem_uncommented (text : PyString) : '#' ∉ uncommented text := by
  intro member
  simp only [uncommented] at member
  have stays := List.mem_takeWhile_imp member
  exact of_decide_eq_true stays rfl

theorem uncommented_append {first : PyString} (without : '#' ∉ first) (second : PyString) :
    uncommented (first ++ second) = first ++ uncommented second := by
  simp only [uncommented]
  rw [List.takeWhile_append_of_pos]
  intro character member
  exact decide_eq_true fun same => without (same ▸ member)

theorem uncommented_of_notMem {text : PyString} (without : '#' ∉ text) : uncommented text = text := by
  have all := uncommented_append without []
  rw [List.append_nil] at all
  rw [all]
  exact List.append_nil text

/-- A key with `#` in it is cut there, and the equals sign is cut off. -/
theorem uncommented_of_mem {first : PyString} (within : '#' ∈ first) (second : PyString) :
    uncommented (first ++ second) = uncommented first := by
  simp only [uncommented]
  rw [List.takeWhile_append, if_neg]
  intro length
  have whole : uncommented first = first := (List.takeWhile_prefix _).eq_of_length length
  rw [← whole] at within
  exact notMem_uncommented first within

/-- A value is kept as it is just if it has no `#`. -/
theorem cutValue_eq_iff (entry : ConfigEntry) : cutValue entry.value = entry.value <-> '#' ∉ entry.value := by
  constructor
  · intro same member
    rw [← same] at member
    exact notMem_uncommented _ ((List.rdropWhile_prefix _ _).subset member)
  · intro without
    rw [cutValue, uncommented_of_notMem without, PyString.rstrip, List.rdropWhile_eq_self_iff]
    intro nonempty space
    rw [entry.value_last _ (List.getLast?_eq_some_getLast nonempty)] at space
    cases space

/-- Stripping on the right stops at a character that is not white space. -/
theorem rstrip_append {character : Char} (plain : PyString.isSpace character = false)
    (before text : PyString) :
    PyString.rstrip (before ++ character :: text) = before ++ character :: PyString.rstrip text := by
  induction text using List.reverseRecOn with
  | nil =>
      rw [PyString.rstrip, List.rdropWhile_concat, plain, if_neg Bool.false_ne_true]
      rfl
  | append_singleton text last inductionHypothesis =>
      have shape : before ++ character :: (text ++ [last]) = before ++ character :: text ++ [last] := by
        simp
      rw [shape, PyString.rstrip, PyString.rstrip, List.rdropWhile_concat, List.rdropWhile_concat]
      cases PyString.isSpace last with
      | true =>
          rw [if_pos rfl, if_pos rfl]
          exact inductionHypothesis
      | false =>
          rw [if_neg Bool.false_ne_true, if_neg Bool.false_ne_true]
          exact shape.symm

theorem configMatch_key {key : PyString} (plain : '=' ∉ key) (value : PyString) :
    configMatch ("CONFIG_".toList ++ (key ++ '=' :: value)) = some (key, value) := by
  have before : forall character, character ∈ key -> decide (character ≠ '=') = true :=
    fun character member => decide_eq_true fun same => plain (same ▸ member)
  simp only [configMatch]
  rw [if_pos (List.prefix_append _ _), List.drop_left' (by rfl)]
  simp only [List.dropWhile_append_of_pos before, List.takeWhile_append_of_pos before]
  simp

theorem configMatch_no_equals {text : PyString} (plain : '=' ∉ text) :
    configMatch ("CONFIG_".toList ++ text) = none := by
  have all : forall character, character ∈ text -> decide (character ≠ '=') = true :=
    fun character member => decide_eq_true fun same => plain (same ▸ member)
  unfold configMatch
  rw [if_pos (List.prefix_append _ _), List.drop_left' (by rfl)]
  dsimp only
  rw [List.dropWhile_eq_nil_iff.mpr all]

/-- What a line assigns, as the parser sees it. -/
def ConfigLine.assigned : ConfigLine -> Option (PyString × PyString)
  | .sets entry => if '#' ∈ entry.key then none else some (entry.key, cutValue entry.value)
  | .comment _ _ => none
  | .blank _ _ _ => none

theorem strip_config {text : PyString}
    (last : forall character, text.getLast? = some character -> PyString.isSpace character = false) :
    PyString.strip ("CONFIG_".toList ++ text) = "CONFIG_".toList ++ text := by
  apply PyString.strip_of_edges
  · intro character head
    cases head
    decide
  · intro character final
    rw [List.getLast?_append] at final
    cases found : text.getLast? with
    | none =>
        rw [found] at final
        cases final
        decide
    | some other =>
        rw [found] at final
        cases final
        exact last character found

theorem uncommented_config (text : PyString) :
    uncommented ("CONFIG_".toList ++ text) = "CONFIG_".toList ++ uncommented text :=
  uncommented_append (by decide) text

theorem parseLine_stripped {line text : PyString}
    (stripped : PyString.strip (uncommented line) = "CONFIG_".toList ++ text) :
    parseLine line = configMatch ("CONFIG_".toList ++ text) := by
  simp only [parseLine]
  rw [stripped]
  exact if_neg (List.append_ne_nil_of_left_ne_nil (by decide) text)

theorem text_sets (entry : ConfigEntry) :
    (ConfigLine.sets entry).text = "CONFIG_".toList ++ (entry.key ++ '=' :: entry.value) :=
  List.append_assoc "CONFIG_".toList entry.key ('=' :: entry.value)

theorem uncommented_sets_hash {entry : ConfigEntry} (hash : '#' ∈ entry.key) :
    uncommented (ConfigLine.sets entry).text = "CONFIG_".toList ++ uncommented entry.key :=
  (congrArg uncommented (text_sets entry)).trans
    ((uncommented_config (entry.key ++ '=' :: entry.value)).trans
      (congrArg ("CONFIG_".toList ++ ·) (uncommented_of_mem hash ('=' :: entry.value))))

theorem uncommented_sets_key {entry : ConfigEntry} (hash : '#' ∉ entry.key) :
    uncommented (ConfigLine.sets entry).text =
      "CONFIG_".toList ++ (entry.key ++ '=' :: uncommented entry.value) := by
  have equals : uncommented ('=' :: entry.value) = '=' :: uncommented entry.value := by
    rw [uncommented, List.takeWhile_cons_of_pos (by decide)]
    rfl
  have rest : uncommented (entry.key ++ '=' :: entry.value) =
      entry.key ++ '=' :: uncommented entry.value :=
    (uncommented_append hash ('=' :: entry.value)).trans (congrArg (entry.key ++ ·) equals)
  exact (congrArg uncommented (text_sets entry)).trans
    ((uncommented_config (entry.key ++ '=' :: entry.value)).trans
      (congrArg ("CONFIG_".toList ++ ·) rest))

/-- A line whose key contains `#` assigns nothing. -/
theorem parseLine_hash {entry : ConfigEntry} (hash : '#' ∈ entry.key) :
    parseLine (ConfigLine.sets entry).text = none := by
  have without : '=' ∉ uncommented entry.key := fun member =>
    (entry.key_plain _ ((List.takeWhile_prefix _).subset member)).1 rfl
  have stripped : PyString.strip (uncommented (ConfigLine.sets entry).text) =
      "CONFIG_".toList ++ uncommented entry.key := by
    rw [uncommented_sets_hash hash]
    apply strip_config
    intro character final
    have member := (List.takeWhile_prefix _).subset (List.mem_of_getLast? final)
    exact (entry.key_plain character member).2
  exact (parseLine_stripped stripped).trans (configMatch_no_equals without)

/-- A line whose key does not contain `#` assigns what is left of its value. -/
theorem parseLine_key {entry : ConfigEntry} (hash : '#' ∉ entry.key) :
    parseLine (ConfigLine.sets entry).text = some (entry.key, cutValue entry.value) := by
  have left : PyString.lstrip ("CONFIG_".toList ++ (entry.key ++ '=' :: uncommented entry.value)) =
      "CONFIG_".toList ++ (entry.key ++ '=' :: uncommented entry.value) := by
    apply PyString.lstrip_of_head
    intro character head
    cases head
    decide
  have stripped : PyString.strip (uncommented (ConfigLine.sets entry).text) =
      "CONFIG_".toList ++ (entry.key ++ '=' :: cutValue entry.value) := by
    have right := rstrip_append (by decide : PyString.isSpace '=' = false)
      ("CONFIG_".toList ++ entry.key) (uncommented entry.value)
    rw [uncommented_sets_key hash, PyString.strip, left]
    exact right
  exact (parseLine_stripped stripped).trans
    (configMatch_key (fun member => (entry.key_plain _ member).1 rfl) _)

theorem parseLine_entry (entry : ConfigEntry) :
    parseLine (ConfigLine.sets entry).text = (ConfigLine.sets entry).assigned := by
  rw [ConfigLine.assigned]
  by_cases hash : '#' ∈ entry.key
  · rw [if_pos hash, parseLine_hash hash]
  · rw [if_neg hash, parseLine_key hash]

theorem parseLine_comment (text : PyString) : parseLine ('#' :: text) = none := by
  rfl

theorem parseLine_blank {text : PyString}
    (white : forall character, character ∈ text -> PyString.isSpace character = true) :
    parseLine text = none := by
  have nothing : PyString.lstrip (uncommented text) = [] := by
    apply List.dropWhile_eq_nil_iff.mpr
    intro character member
    exact white character ((List.takeWhile_prefix _).subset member)
  simp only [parseLine]
  rw [PyString.strip, nothing]
  rfl

theorem parseLine_text (line : ConfigLine) : parseLine line.text = line.assigned := by
  cases line with
  | sets entry => exact parseLine_entry entry
  | comment text unbroken => exact parseLine_comment text
  | blank text unbroken white => exact parseLine_blank white

/-! ## All lines -/

theorem unbroken_text (line : ConfigLine) : PyString.Unbroken line.text := by
  cases line with
  | sets entry =>
      have key := PyString.unbroken_of_plain fun character member => (entry.key_plain character member).2
      have start : PyString.Unbroken "CONFIG_".toList := by decide
      exact (start.append key).append (entry.value_unbroken.cons (by decide))
  | comment text unbroken => exact unbroken.cons (by decide)
  | blank text unbroken white => exact unbroken

/-- Each line of the text is parsed by itself. -/
theorem filterMap_splitlines (lines : List ConfigLine) :
    (PyString.splitlines (configText lines)).filterMap parseLine = lines.filterMap ConfigLine.assigned := by
  induction lines with
  | nil => rfl
  | cons line lines inductionHypothesis =>
      cases lines with
      | nil =>
          have alone : configText [line] = line.text := List.append_nil _
          rw [alone, PyString.splitlines_last (unbroken_text line), List.filterMap_cons, ← parseLine_text]
          by_cases empty : line.text = []
          · rw [if_pos empty, empty]
            rfl
          · rw [if_neg empty, List.filterMap_cons]
            rfl
      | cons next lines =>
          have shape : configText (line :: next :: lines) =
              line.text ++ '\n' :: configText (next :: lines) := by
            rw [configText, List.map_cons, List.map_cons, List.intercalate_cons_cons]
            rw [List.append_assoc]
            rfl
          rw [shape, PyString.splitlines_cons (unbroken_text line), List.filterMap_cons, parseLine_text,
            inductionHypothesis, List.filterMap_cons (l := next :: lines)]

/-- Later assignments stand before earlier ones. -/
theorem parseConfig_eq (configBuffer : PyString) (cache : ConfigDict) :
    parseConfig configBuffer cache =
      ((PyString.splitlines configBuffer).filterMap parseLine).reverse ++ cache := by
  simp only [parseConfig]
  induction PyString.splitlines configBuffer generalizing cache with
  | nil => rfl
  | cons line lines inductionHypothesis =>
      rw [List.foldl_cons, inductionHypothesis, List.filterMap_cons]
      cases parseLine line with
      | none => rfl
      | some assigned =>
          change _ = (assigned :: lines.filterMap parseLine).reverse ++ cache
          rw [List.reverse_cons, List.append_assoc]
          rfl

/-- What is looked up in the cache is what was assigned last. -/
theorem lookup_reverse (assignments : ConfigDict) (key : PyString) :
    assignments.reverse.lookup key =
      (assignments.filterMap fun assigned => if key == assigned.1 then some assigned.2 else none).getLast? := by
  rw [List.lookup_eq_findSome?, ← List.head?_filterMap, List.filterMap_reverse, List.head?_reverse]

/-- A line assigns to a key the value that it sets it to, as far as the parser sees it. -/
theorem assigned_valueFor (line : ConfigLine) (key : PyString) :
    (line.assigned.bind fun assigned => if key == assigned.1 then some assigned.2 else none) =
      if '#' ∈ key then none else (line.valueFor key).map cutValue := by
  cases line with
  | comment text unbroken => exact (ite_self none).symm
  | blank text unbroken white => exact (ite_self none).symm
  | sets entry =>
      rw [ConfigLine.assigned, ConfigLine.valueFor]
      by_cases same : entry.key = key
      · rw [if_pos same, same]
        split
        · rfl
        · rw [Option.bind_some, if_pos (beq_self_eq_true key)]
          rfl
      · have other : ¬ (key == entry.key) = true := fun equal => same (eq_of_beq equal).symm
        rw [if_neg same]
        split
        · exact (ite_self none).symm
        · rw [Option.bind_some, if_neg other]
          exact (ite_self none).symm

/-- The value of a key in a cache that was filled from the lines. -/
theorem lookup_parseConfig (lines : List ConfigLine) (key : PyString) :
    (parseConfig (configText lines) []).lookup key =
      if '#' ∈ key then none else (lastValue lines key).map cutValue := by
  rw [parseConfig_eq, List.append_nil, lookup_reverse, filterMap_splitlines, List.filterMap_filterMap]
  simp only [assigned_valueFor]
  by_cases hash : '#' ∈ key
  · simp only [if_pos hash]
    rw [List.filterMap_eq_nil_iff.mpr fun _ _ => rfl]
    rfl
  · simp only [if_neg hash]
    rw [← List.map_filterMap, List.getLast?_map]
    rfl

/-! ## Any reads -/

namespace CrashConfigCache

/-- The cache is empty, or it holds what the text was parsed to. -/
def Filled (configBuffer : PyString) (config : CrashConfigCache) : Prop :=
  config.configBuffer = configBuffer ∧ (config.cache = [] ∨ config.cache = parseConfig configBuffer [])

variable {configBuffer : PyString} {config : CrashConfigCache}

theorem Filled.ikconfigCache (filled : Filled configBuffer config) :
    Filled configBuffer config.ikconfigCache ∧
      config.ikconfigCache.cache = parseConfig configBuffer [] := by
  rcases filled with ⟨buffer, content⟩
  simp only [CrashConfigCache.ikconfigCache]
  by_cases empty : config.cache = []
  · have parsed : parseConfig config.configBuffer config.cache = parseConfig configBuffer [] := by
      rw [buffer, empty]
    rw [if_pos empty]
    exact ⟨⟨buffer, Or.inr parsed⟩, parsed⟩
  · rw [if_neg empty]
    exact ⟨⟨buffer, content⟩, content.resolve_left empty⟩

theorem Filled.reads (filled : Filled configBuffer config) (names : List PyString) :
    Filled configBuffer (config.reads names) := by
  induction names generalizing config with
  | nil => exact filled
  | cons name names inductionHypothesis =>
      exact inductionHypothesis filled.ikconfigCache.1

end CrashConfigCache

/-- What a read answers, after any other reads. -/
theorem getitem_reads (lines : List ConfigLine) (earlier : List PyString) (key : PyString) :
    (CrashConfigCache.getitem key (CrashConfigCache.reads earlier { configBuffer := configText lines })).1 =
      if '#' ∈ key then none else (lastValue lines key).map cutValue := by
  have start : CrashConfigCache.Filled (configText lines) { configBuffer := configText lines } :=
    ⟨rfl, Or.inl rfl⟩
  rw [CrashConfigCache.getitem, (start.reads earlier).ikconfigCache.2, lookup_parseConfig]

theorem exists_entry_of_lastValue {lines : List ConfigLine} {key value : PyString}
    (last : lastValue lines key = some value) :
    Exists fun entry : ConfigEntry => entry.value = value := by
  rcases List.mem_filterMap.mp (List.mem_of_getLast? last) with ⟨line, _, found⟩
  cases line with
  | comment text unbroken => cases found
  | blank text unbroken white => cases found
  | sets entry =>
      rw [ConfigLine.valueFor] at found
      split at found
      · exact ⟨entry, Option.some.inj found⟩
      · cases found

theorem cutValue_lastValue {lines : List ConfigLine} {key value : PyString}
    (last : lastValue lines key = some value) : cutValue value = value <-> '#' ∉ value := by
  rcases exists_entry_of_lastValue last with ⟨entry, same⟩
  rw [← same]
  exact cutValue_eq_iff entry

/-- The parser returns the values of the configuration if and only if it takes none of their
characters, nor those of their keys, for the beginning of a comment. -/
theorem readsLastValues_iff (lines : List ConfigLine) : ReadsLastValues lines <-> NoHashes lines := by
  constructor
  · intro answers key value last
    have answer := answers [] key
    rw [getitem_reads, last] at answer
    split at answer
    · cases answer
    · rename_i without
      exact ⟨without, (cutValue_lastValue last).mp (Option.some.inj answer)⟩
  · intro without earlier key
    rw [getitem_reads]
    cases last : lastValue lines key with
    | none => exact ite_self none
    | some value =>
        rcases without key value last with ⟨keyWithout, valueWithout⟩
        rw [if_neg keyWithout, Option.map_some, (cutValue_lastValue last).mpr valueWithout]

/-- `CONFIG_CMDLINE="a#b"`. -/
def quotedHash : ConfigEntry where
  key := "CMDLINE".toList
  value := "\"a#b\"".toList
  key_ne_nil := by decide
  key_plain := @of_decide_eq_true _ (List.decidableBAll _ _) rfl
  value_unbroken := by decide
  value_first := by
    intro character first
    cases first
    decide
  value_last := by
    intro character last
    cases last
    decide

/-- The value is read as `"a`. -/
theorem not_readsLastValues_quotedHash : ¬ ReadsLastValues [ConfigLine.sets quotedHash] := by
  intro answers
  have answer := answers [] "CMDLINE".toList
  revert answer
  decide

end Cache
end CrashPython

import CrashPython.Library.LazyObject
import CrashPython.Library.Script

namespace CrashPython
namespace Subsystem

open Library

/-!
# Decoders of the storage stack

A decoder describes a bio or a buffer head.  Its constructor keeps the object, and its method
`interpret` reads the attributes of the description when one of them is wanted for the first
time: `Decoder.__getattr__` is called for an attribute that neither the decoder nor its class
has.

A class has the names that its body gives a value.  The decoders of the device mapper only
annotate the attribute that is to choose between two methods, so that neither the class nor a
new decoder has it.

Some descriptions have the name of a block device or of a file system type.  Names are read as
strict text, so that a name in other bytes raises an exception that is none of gdb.
-/

/-- What a read of memory can raise: errors of gdb, among them `gdb.NotAvailableError`, and the
`AttributeError` of a type that is not known yet. -/
inductive ReadError where
  | gdbError
  | notAvailable
  | delayedAttribute
deriving DecidableEq, Repr

/-- The values of attributes.  Values of gdb and integers are given by numbers, and members of
a class by their names. -/
inductive DecoderValue where
  | none
  | flag (value : Bool)
  | number (value : Nat)
  | text (value : String)
  | member (name : String)
deriving DecidableEq, Repr

/-- The exceptions that leave a read of an attribute. -/
inductive DecodeError where
  | attributeError (name : String)
  | read (error : ReadError)
  | unicodeDecodeError
  | typeError
  | recursionError
deriving DecidableEq, Repr

/-- The exception that `Decoder.__getattr__` raises has a message of its own. -/
def DecodeError.text : DecodeError -> Option String
  | .attributeError name => some ("No such attribute `" ++ name ++ "'")
  | _ => none

abbrev DecoderProgram : Type :=
  AttributeProgram String DecoderValue DecodeError

/-- The names that every object has, and those of the base class. -/
def decoderMembers : List String :=
  ["__class__", "__delattr__", "__dict__", "__dir__", "__doc__", "__eq__", "__format__", "__ge__",
    "__getattribute__", "__getstate__", "__gt__", "__hash__", "__init_subclass__", "__le__",
    "__lt__", "__module__", "__ne__", "__new__", "__reduce__", "__reduce_ex__", "__repr__",
    "__setattr__", "__sizeof__", "__subclasshook__", "__weakref__", "__annotations__",
    "__init__", "interpret", "__getattr__", "register", "__str__", "__next__"]

/-- The classes derived from `Decoder`. -/
inductive DecoderKind where
  | badBH
  | genericBH
  | badBio
  | genericBio
  | clonedBioReq
  | clonedBio
  | dioBio
  | mPage
  | bioBH
  | syncWBBH
  | xfsBuf
  | xfsBufBio
  | ext3
deriving DecidableEq, Repr

namespace DecoderKind

/-- The names that the body of the class gives a value, other than those of the base class. -/
def members : DecoderKind -> List String
  | .badBH | .genericBH | .badBio | .genericBio => ["_description"]
  | .clonedBioReq =>
      ["_types", "__endio__", "_description", "_get_clone_bio_rq_info_old",
        "_get_clone_bio_rq_info_3_7"]
  | .clonedBio =>
      ["_types", "__endio__", "_description", "_get_clone_bio_tio_old", "_get_clone_bio_tio_3_15"]
  | .dioBio | .bioBH | .xfsBufBio => ["_types", "__endio__", "_description"]
  | .mPage => ["__endio__", "description"]
  | .syncWBBH | .ext3 => ["__endio__", "_description"]
  | .xfsBuf => []

/-- The attribute in which the constructor keeps its argument. -/
def argument : DecoderKind -> String
  | .badBH | .genericBH | .syncWBBH | .ext3 => "bh"
  | .xfsBuf => "xfsbuf"
  | _ => "bio"

end DecoderKind

/-- Values, types and functions that the decoders read from the kernel, and the table of
registered decoders.  The method `string` of a value gives nothing for bytes that are no text. -/
structure StorageImage where
  field : DecoderValue -> String -> Except ReadError DecoderValue
  index : DecoderValue -> Nat -> Except ReadError DecoderValue
  type : String -> Except ReadError DecoderValue
  targetHasMember : DecoderValue -> String -> Except ReadError Bool
  cast : DecoderValue -> DecoderValue -> Except ReadError DecoderValue
  containerOf : DecoderValue -> DecoderValue -> String -> Except ReadError DecoderValue
  shiftLeft : DecoderValue -> DecoderValue -> Except ReadError DecoderValue
  toInt : DecoderValue -> Except ReadError Nat
  string : DecoderValue -> Except ReadError (Option String)
  registered : Nat -> Option DecoderKind

namespace StorageImage

variable (image : StorageImage)

/-- `string`, which raises for bytes that are no text. -/
def decoded (value : DecoderValue) : Except DecodeError String :=
  match image.string value with
  | .error error => .error (.read error)
  | .ok none => .error .unicodeDecodeError
  | .ok (some text) => .ok text

/-- `gendisk_name` for a pointer to a `struct gendisk`, the type of the member `bd_disk`. -/
def gendiskName (gendisk : DecoderValue) : Except DecodeError String := do
  let _ <- (image.type "gendisk_type").mapError .read
  let name <- (image.field gendisk "disk_name").mapError .read
  image.decoded name

/-- `block_device_name`. -/
def blockDeviceName (bdev : DecoderValue) : Except DecodeError String := do
  let gendisk <- (image.field bdev "bd_disk").mapError .read
  image.gendiskName gendisk

/-- `super_fstype`. -/
def superFstype (sb : DecoderValue) : Except DecodeError String := do
  let fstype <- (image.field sb "s_type").mapError .read
  let name <- (image.field fstype "name").mapError .read
  image.decoded name

/-- Go on with a name. -/
def naming (result : Except DecodeError String) (next : String -> DecoderProgram) :
    DecoderProgram :=
  .reading id result next

/-- Go on with a value that was read from the kernel. -/
def reading {Found : Type} (result : Except ReadError Found) (next : Found -> DecoderProgram) :
    DecoderProgram :=
  .reading .read result next

/-- A type of the collection `_types` of a class. -/
def typeOf (name : String) (next : DecoderValue -> DecoderProgram) : DecoderProgram :=
  .read "_types" fun _ => reading (image.type name) next

/-- `bio['bi_private'].cast(self._types.…)`. -/
def castPrivate (bio : DecoderValue) (type : String) (next : DecoderValue -> DecoderProgram) :
    DecoderProgram :=
  reading (image.field bio "bi_private") fun value =>
    image.typeOf type fun type => reading (image.cast value type) next

/-- Make an attribute, and go on with the attribute. -/
def keeping (name : String) (value : DecoderValue) (next : DecoderValue -> DecoderProgram) :
    DecoderProgram :=
  .assign name value (.read name next)

/-- The test whether the annotated attribute is `None`, and the choice between the methods. -/
def chooseGetter (getter old new type : String) : DecoderProgram :=
  .read getter fun value =>
    if value = .none then
      image.typeOf type fun type =>
        reading (image.targetHasMember type "clone") fun clone =>
          .read (if clone then new else old) fun method => .assign getter method .done
    else .done

/-- `ClonedBioReqDecoder`, the two methods behind `_get_clone_bio_rq_info`. -/
def getCloneBioRqInfo (getter bio : DecoderValue) (next : DecoderValue -> DecoderProgram) :
    DecoderProgram :=
  if getter = .member "_get_clone_bio_rq_info_old" then
    image.castPrivate bio "dm_rq_clone_bio_info_p_type" next
  else if getter = .member "_get_clone_bio_rq_info_3_7" then
    image.typeOf "dm_rq_clone_bio_info_p_type" fun type =>
      reading (image.containerOf bio type "clone") next
  else .raise .typeError

/-- `ClonedBioDecoder`, the two methods behind `_get_clone_bio_tio`.  The type that the second
one asks for is not in the collection. -/
def getCloneBioTio (getter bio : DecoderValue) (next : DecoderValue -> DecoderProgram) :
    DecoderProgram :=
  if getter = .member "_get_clone_bio_tio_old" then
    image.castPrivate bio "dm_target_io_p_type" next
  else if getter = .member "_get_clone_bio_tio_3_15" then
    reading (image.field bio "bi_private") fun _ =>
      .read "_types" fun _ => .raise (.attributeError "dm_clone_bio_info_p_type")
  else .raise .typeError

/-- What the constructor does after that of the base class. -/
def initRest (kind : DecoderKind) (argument : DecoderValue) : DecoderProgram :=
  .assign kind.argument argument
    (match kind with
    | .clonedBioReq =>
        image.chooseGetter "_get_clone_bio_rq_info" "_get_clone_bio_rq_info_old"
          "_get_clone_bio_rq_info_3_7" "dm_rq_clone_bio_info_p_type"
    | .clonedBio =>
        image.chooseGetter "_get_clone_bio_tio" "_get_clone_bio_tio_old"
          "_get_clone_bio_tio_3_15" "dm_target_io_p_type"
    | _ => .done)

/-- `interpret`. -/
def interpret : DecoderKind -> DecoderProgram
  | .badBH | .badBio | .genericBio | .syncWBBH | .xfsBuf => .done
  | .genericBH =>
      .read "bh" fun bh =>
        reading (image.field bh "b_bdev") fun bdev =>
          naming (image.blockDeviceName bdev) fun name => .assign "block_device" (.text name) .done
  | .clonedBioReq =>
      .read "_get_clone_bio_rq_info" fun getter =>
        .read "bio" fun bio =>
          image.getCloneBioRqInfo getter bio fun info =>
            keeping "info" info fun info =>
              reading (image.field info "tio") fun tio => .assign "tio" tio .done
  | .clonedBio =>
      .read "_get_clone_bio_tio" fun getter =>
        .read "bio" fun bio =>
          image.getCloneBioTio getter bio fun tio =>
            keeping "tio" tio fun tio =>
              reading (image.field tio "io") fun io =>
                reading (image.field io "bio") fun bio => .assign "next_bio" bio .done
  | .dioBio =>
      .read "bio" fun bio =>
        image.castPrivate bio "dio_p_type" fun dio =>
          keeping "dio" dio fun dio =>
            reading (image.field dio "inode") fun inode =>
              reading (image.field inode "i_sb") fun sb =>
                naming (image.superFstype sb) fun fstype =>
                  .assign "fstype" (.text fstype) (.read "dio" fun dio =>
                    reading (image.field dio "inode") fun inode =>
                      reading (image.field inode "i_sb") fun sb =>
                        reading (image.field sb "s_bdev") fun bdev =>
                          naming (image.blockDeviceName bdev) fun dev =>
                            .assign "dev" (.text dev) (.read "dio" fun first =>
                              reading (image.field first "block_in_file") fun block =>
                                .read "dio" fun second =>
                                  reading (image.field second "blkbits") fun bits =>
                                    reading (image.shiftLeft block bits) fun offset =>
                                      .assign "offset" offset .done))
  | .mPage =>
      .read "bio" fun bio =>
        reading (image.field bio "bi_io_vec") fun vectors =>
          reading (image.index vectors 0) fun vector =>
            reading (image.field vector "bv_page") fun page =>
              reading (image.field page "mapping") fun mapping =>
                reading (image.field mapping "host") fun inode =>
                  keeping "inode" inode fun inode =>
                    reading (image.field inode "i_sb") fun sb =>
                      naming (image.superFstype sb) fun fstype =>
                        .assign "fstype" (.text fstype) .done
  | .bioBH =>
      .read "bio" fun bio =>
        image.castPrivate bio "buffer_head_p_type" fun bh => .assign "bh" bh .done
  | .xfsBufBio =>
      .read "bio" fun bio =>
        image.castPrivate bio "xfs_buf_p_type" fun xfsbuf =>
          .assign "xfsbuf" xfsbuf (.read "bio" fun bio =>
            reading (image.field bio "bi_bdev") fun bdev =>
              naming (image.blockDeviceName bdev) fun name => .assign "devname" (.text name) .done)
  | .ext3 =>
      .assign "fstype" (.text "journal on ext3") (.read "bh" fun bh =>
        reading (image.field bh "b_bdev") fun bdev =>
          naming (image.blockDeviceName bdev) fun name =>
            .assign "devname" (.text name) (.read "bh" fun first =>
              reading (image.field first "b_blocknr") fun block =>
                reading (image.toInt block) fun block =>
                  .read "bh" fun second =>
                    reading (image.field second "b_size") fun size =>
                      reading (image.toInt size) fun size =>
                        .assign "offset" (.number (block * size)) (.read "bh" fun third =>
                          reading (image.field third "b_size") fun size =>
                            reading (image.toInt size) fun size =>
                              .assign "length" (.number size) .done)))

/-- A class of decoders, applied to an object. -/
def decoder (kind : DecoderKind) (argument : DecoderValue) :
    LazyClass String DecoderValue DecodeError where
  member := fun name =>
    if name ∈ decoderMembers ++ kind.members then some (.member name) else none
  init := .assign "interpreted" (.flag false) (image.initRest kind argument)
  interpret := image.interpret kind
  flag := "interpreted"
  truth := fun value => decide (value = .flag true)
  set := .flag true
  set_true := rfl
  missing := .attributeError
  recursion := .recursionError

/-- A decoder of an object, with its attributes. -/
def construct (limit : Nat) (kind : DecoderKind) (argument : DecoderValue) :
    Except DecodeError (DecoderKind × LazyState String DecoderValue) :=
  match (image.decoder kind argument).construct limit with
  | (state, .ok _) => .ok (kind, state)
  | (_, .error error) => .error error

/-- The class that is registered for the end of a bio, or else the generic one. -/
def decoderKind (bio : DecoderValue) : Except DecodeError DecoderKind :=
  match image.field bio "bi_end_io" >>= image.toInt with
  | .error error => .error (.read error)
  | .ok endio => .ok ((image.registered endio).getD .genericBio)

/-- `decode_bio`. -/
def decodeBio (limit : Nat) (bio : DecoderValue) :
    Except DecodeError (DecoderKind × LazyState String DecoderValue) :=
  match image.decoderKind bio >>= fun kind => image.construct limit kind bio with
  | .error (.read .notAvailable) => image.construct limit .badBio bio
  | result => result

/-! ## Decoders that describe what they were made for -/

/-- An exception that a read may end with. -/
def Tolerable (error : DecodeError) : Prop :=
  (Exists fun name : String => error = .attributeError name) ∨
    Exists fun failure : ReadError => error = .read failure

/-- The constructor and all later reads end with a value or with an exception that a read may
end with.  The method runs at most once at a time, and returns at most once. -/
structure Describes (kind : DecoderKind) (argument : DecoderValue) (limit : Nat)
    (names : List String) : Prop where
  constructs : forall error, ((image.decoder kind argument).construct limit).2 = .error error ->
    Tolerable error
  entered : ((image.decoder kind argument).construct limit).1.deepest ≤ 1 ∧
    ((image.decoder kind argument).construct limit).1.completions ≤ 1
  reads : ((image.decoder kind argument).construct limit).2 = .ok () ->
    forall error, .error error ∈ ((image.decoder kind argument).getattrs limit names
        ((image.decoder kind argument).construct limit).1).2 -> Tolerable error
  once : ((image.decoder kind argument).construct limit).2 = .ok () ->
    ((image.decoder kind argument).getattrs limit names
        ((image.decoder kind argument).construct limit).1).1.deepest ≤ 1 ∧
      ((image.decoder kind argument).getattrs limit names
        ((image.decoder kind argument).construct limit).1).1.completions ≤ 1

/-- `bio['bi_private'].cast(…)` as a value. -/
def privateOf (bio : DecoderValue) (type : String) : Except ReadError DecoderValue := do
  let value <- image.field bio "bi_private"
  let type <- image.type type
  image.cast value type

/-- The super block of the inode of a `struct dio`. -/
def dioSuper (bio : DecoderValue) : Except ReadError DecoderValue := do
  let dio <- image.privateOf bio "dio_p_type"
  let inode <- image.field dio "inode"
  image.field inode "i_sb"

/-- The super block of the inode that the first page of a bio belongs to. -/
def mPageSuper (bio : DecoderValue) : Except ReadError DecoderValue := do
  let vectors <- image.field bio "bi_io_vec"
  let vector <- image.index vectors 0
  let page <- image.field vector "bv_page"
  let mapping <- image.field page "mapping"
  let inode <- image.field mapping "host"
  image.field inode "i_sb"

/-- Every name that `interpret` comes to is text. -/
def NamesDecode (argument : DecoderValue) : DecoderKind -> Prop
  | .genericBH | .ext3 => forall bdev, image.field argument "b_bdev" = .ok bdev ->
      image.blockDeviceName bdev ≠ .error .unicodeDecodeError
  | .dioBio => forall sb, image.dioSuper argument = .ok sb ->
      image.superFstype sb ≠ .error .unicodeDecodeError ∧
        forall fstype bdev, image.superFstype sb = .ok fstype -> image.field sb "s_bdev" = .ok bdev ->
          image.blockDeviceName bdev ≠ .error .unicodeDecodeError
  | .mPage => forall sb, image.mPageSuper argument = .ok sb ->
      image.superFstype sb ≠ .error .unicodeDecodeError
  | .xfsBufBio => forall xfsbuf bdev, image.privateOf argument "xfs_buf_p_type" = .ok xfsbuf ->
      image.field argument "bi_bdev" = .ok bdev ->
        image.blockDeviceName bdev ≠ .error .unicodeDecodeError
  | _ => True

/-- What is known of a decoder whose constructor has kept its argument. -/
def keptArgument (kind : DecoderKind) (argument : DecoderValue) : String -> Option DecoderValue :=
  Function.update
    (fun name => if name = "_types" ∧ name ∈ kind.members then some (.member name) else none)
    kind.argument (some argument)

variable {image} {known frame : String -> Option DecoderValue}
  {ends : Except DecodeError (String -> Option DecoderValue) -> Prop}

/-! ## What the methods read -/

/-- `reading` goes on, if gdb can fail as it likes. -/
theorem ensures_of_reading {Found : Type} {result : Except ReadError Found}
    {next : Found -> DecoderProgram} (fails : forall error, ends (.error (.read error)))
    (continues : forall found, result = .ok found ->
      (next found).Ensures "interpreted" frame ends known) :
    (reading result next).Ensures "interpreted" frame ends known :=
  AttributeProgram.ensures_reading (fun error _ => fails error) continues

theorem ensures_castPrivate {bio : DecoderValue} {type : String} {next : DecoderValue -> DecoderProgram}
    (fails : forall error, ends (.error (.read error)))
    (types : Exists fun value : DecoderValue => known "_types" = some value)
    (continues : forall value, image.privateOf bio type = .ok value ->
      (next value).Ensures "interpreted" frame ends known) :
    (image.castPrivate bio type next).Ensures "interpreted" frame ends known := by
  apply ensures_of_reading fails
  intro value found
  rcases types with ⟨types, present⟩
  refine ⟨types, present, ?_⟩
  apply ensures_of_reading fails
  intro type resolved
  apply ensures_of_reading fails
  intro result made
  apply continues
  simp only [privateOf, found, resolved]
  exact made

/-- An exception at the end of a name is one of gdb, or the name is no text. -/
def NameErrors (result : Except DecodeError String) : Prop :=
  forall error, result = .error error ->
    error = .unicodeDecodeError ∨ Exists fun failure : ReadError => error = .read failure

theorem nameErrors_read {Found : Type} {result : Except ReadError Found}
    {next : Found -> Except DecodeError String} (continues : forall found, NameErrors (next found)) :
    NameErrors (result.mapError .read >>= next) := by
  cases result with
  | error failure =>
      intro error same
      cases same
      exact .inr ⟨failure, rfl⟩
  | ok found => exact continues found

theorem nameErrors_decoded (value : DecoderValue) : NameErrors (image.decoded value) := by
  intro error same
  simp only [decoded] at same
  cases found : image.string value with
  | error failure =>
      rw [found] at same
      cases same
      exact .inr ⟨failure, rfl⟩
  | ok text =>
      rw [found] at same
      cases text with
      | none =>
          cases same
          exact .inl rfl
      | some text => cases same

theorem blockDeviceName_errors (bdev : DecoderValue) : NameErrors (image.blockDeviceName bdev) :=
  nameErrors_read fun _ => nameErrors_read fun _ => nameErrors_read fun _ => nameErrors_decoded _

theorem superFstype_errors (sb : DecoderValue) : NameErrors (image.superFstype sb) :=
  nameErrors_read fun _ => nameErrors_read fun _ => nameErrors_decoded _

theorem ensures_naming {result : Except DecodeError String} {next : String -> DecoderProgram}
    (fails : forall error, ends (.error (.read error))) (errors : NameErrors result)
    (decodes : result ≠ .error .unicodeDecodeError)
    (continues : forall name, result = .ok name ->
      (next name).Ensures "interpreted" frame ends known) :
    (naming result next).Ensures "interpreted" frame ends known := by
  apply AttributeProgram.ensures_reading
  · intro error same
    rcases errors error same with rfl | ⟨failure, rfl⟩
    · exact absurd same decodes
    · exact fails failure
  · exact continues

theorem ensures_keeping {name : String} {value : DecoderValue} {next : DecoderValue -> DecoderProgram}
    (other : name ≠ "interpreted") (outside : frame name = none)
    (continues : (next value).Ensures "interpreted" frame ends
      (Function.update known name (some value))) :
    (keeping name value next).Ensures "interpreted" frame ends known :=
  ⟨other, outside, value, Function.update_self _ _ _, continues⟩

section Interpret

variable {argument : DecoderValue} (fails : forall error, ends (.error (.read error)))
  (returns : forall reached, ends (.ok reached))

include fails returns

theorem genericBH_ensures (decodes : image.NamesDecode argument .genericBH) :
    (image.interpret .genericBH).Ensures "interpreted" (keptArgument .genericBH argument) ends
      (keptArgument .genericBH argument) := by
  refine ⟨argument, rfl, ?_⟩
  apply ensures_of_reading fails
  intro bdev found
  apply ensures_naming fails (blockDeviceName_errors bdev) (decodes bdev found)
  intro name _
  exact ⟨by decide, rfl, returns _⟩

theorem dioBio_ensures (decodes : image.NamesDecode argument .dioBio) :
    (image.interpret .dioBio).Ensures "interpreted" (keptArgument .dioBio argument) ends
      (keptArgument .dioBio argument) := by
  refine ⟨argument, rfl, ?_⟩
  apply ensures_castPrivate fails ⟨_, rfl⟩
  intro dio made
  apply ensures_keeping (by decide) rfl
  apply ensures_of_reading fails
  intro inode inodeFound
  apply ensures_of_reading fails
  intro sb sbFound
  have super : image.dioSuper argument = .ok sb :=
    except_bind_ok.mpr ⟨dio, made, except_bind_ok.mpr ⟨inode, inodeFound, sbFound⟩⟩
  apply ensures_naming fails (superFstype_errors sb) (decodes sb super).1
  intro fstype named
  refine ⟨by decide, rfl, dio, rfl, ?_⟩
  apply AttributeProgram.ensures_found inodeFound
  apply AttributeProgram.ensures_found sbFound
  apply ensures_of_reading fails
  intro bdev bdevFound
  apply ensures_naming fails (blockDeviceName_errors bdev) ((decodes sb super).2 fstype bdev named bdevFound)
  intro dev _
  refine ⟨by decide, rfl, dio, rfl, ?_⟩
  apply ensures_of_reading fails
  intro block _
  refine ⟨dio, rfl, ?_⟩
  apply ensures_of_reading fails
  intro bits _
  apply ensures_of_reading fails
  intro offset _
  exact ⟨by decide, rfl, returns _⟩

theorem mPage_ensures (decodes : image.NamesDecode argument .mPage) :
    (image.interpret .mPage).Ensures "interpreted" (keptArgument .mPage argument) ends
      (keptArgument .mPage argument) := by
  refine ⟨argument, rfl, ?_⟩
  apply ensures_of_reading fails
  intro vectors vectorsFound
  apply ensures_of_reading fails
  intro vector vectorFound
  apply ensures_of_reading fails
  intro page pageFound
  apply ensures_of_reading fails
  intro mapping mappingFound
  apply ensures_of_reading fails
  intro inode inodeFound
  apply ensures_keeping (by decide) rfl
  apply ensures_of_reading fails
  intro sb sbFound
  have super : image.mPageSuper argument = .ok sb :=
    except_bind_ok.mpr ⟨vectors, vectorsFound, except_bind_ok.mpr ⟨vector, vectorFound,
      except_bind_ok.mpr ⟨page, pageFound, except_bind_ok.mpr ⟨mapping, mappingFound,
        except_bind_ok.mpr ⟨inode, inodeFound, sbFound⟩⟩⟩⟩⟩
  apply ensures_naming fails (superFstype_errors sb) (decodes sb super)
  intro fstype _
  exact ⟨by decide, rfl, returns _⟩

theorem bioBH_ensures :
    (image.interpret .bioBH).Ensures "interpreted" (keptArgument .bioBH argument) ends
      (keptArgument .bioBH argument) := by
  refine ⟨argument, rfl, ?_⟩
  apply ensures_castPrivate fails ⟨_, rfl⟩
  intro bh _
  exact ⟨by decide, rfl, returns _⟩

theorem xfsBufBio_ensures (decodes : image.NamesDecode argument .xfsBufBio) :
    (image.interpret .xfsBufBio).Ensures "interpreted" (keptArgument .xfsBufBio argument) ends
      (keptArgument .xfsBufBio argument) := by
  refine ⟨argument, rfl, ?_⟩
  apply ensures_castPrivate fails ⟨_, rfl⟩
  intro xfsbuf made
  refine ⟨by decide, rfl, argument, rfl, ?_⟩
  apply ensures_of_reading fails
  intro bdev found
  apply ensures_naming fails (blockDeviceName_errors bdev) (decodes xfsbuf bdev made found)
  intro name _
  exact ⟨by decide, rfl, returns _⟩

theorem ext3_ensures (decodes : image.NamesDecode argument .ext3) :
    (image.interpret .ext3).Ensures "interpreted" (keptArgument .ext3 argument) ends
      (keptArgument .ext3 argument) := by
  refine ⟨by decide, rfl, argument, rfl, ?_⟩
  apply ensures_of_reading fails
  intro bdev found
  apply ensures_naming fails (blockDeviceName_errors bdev) (decodes bdev found)
  intro name _
  refine ⟨by decide, rfl, argument, rfl, ?_⟩
  apply ensures_of_reading fails
  intro number _
  apply ensures_of_reading fails
  intro block _
  refine ⟨argument, rfl, ?_⟩
  apply ensures_of_reading fails
  intro value _
  apply ensures_of_reading fails
  intro size _
  refine ⟨by decide, rfl, argument, rfl, ?_⟩
  apply ensures_of_reading fails
  intro value _
  apply ensures_of_reading fails
  intro length _
  exact ⟨by decide, rfl, returns _⟩

end Interpret

/-- The attribute that the class annotates and does not define. -/
def annotated : DecoderKind -> Option String
  | .clonedBioReq => some "_get_clone_bio_rq_info"
  | .clonedBio => some "_get_clone_bio_tio"
  | _ => none

/-- Where all names are text, the method returns or raises what it may. -/
theorem interpret_ensures {kind : DecoderKind} (defined : annotated kind = none)
    {argument : DecoderValue} (fails : forall error, ends (.error (.read error)))
    (returns : forall reached, ends (.ok reached)) (decodes : image.NamesDecode argument kind) :
    (image.interpret kind).Ensures "interpreted" (keptArgument kind argument) ends
      (keptArgument kind argument) := by
  cases kind with
  | badBH => exact returns _
  | genericBH => exact genericBH_ensures fails returns decodes
  | badBio => exact returns _
  | genericBio => exact returns _
  | clonedBioReq => cases defined
  | clonedBio => cases defined
  | dioBio => exact dioBio_ensures fails returns decodes
  | mPage => exact mPage_ensures fails returns decodes
  | bioBH => exact bioBH_ensures fails returns
  | syncWBBH => exact returns _
  | xfsBuf => exact returns _
  | xfsBufBio => exact xfsBufBio_ensures fails returns decodes
  | ext3 => exact ext3_ensures fails returns decodes

theorem ensures_undecoded {result : Except DecodeError String} {next : String -> DecoderProgram}
    (undecoded : result = .error .unicodeDecodeError)
    (raises : ends (.error .unicodeDecodeError)) :
    (naming result next).Ensures "interpreted" frame ends known := by
  rw [undecoded]
  exact raises

/-- The cast of the private data goes on as it does as a value. -/
theorem ensures_privateOf {bio : DecoderValue} {type : String} {value : DecoderValue}
    {next : DecoderValue -> DecoderProgram} (made : image.privateOf bio type = .ok value)
    (types : Exists fun value : DecoderValue => known "_types" = some value)
    (continues : (next value).Ensures "interpreted" frame ends known) :
    (image.castPrivate bio type next).Ensures "interpreted" frame ends known := by
  rcases types with ⟨types, present⟩
  simp only [privateOf] at made
  rcases except_bind_ok.mp made with ⟨field, found, made⟩
  rcases except_bind_ok.mp made with ⟨resolved, typed, made⟩
  apply AttributeProgram.ensures_found found
  refine ⟨types, present, ?_⟩
  apply AttributeProgram.ensures_found typed
  exact AttributeProgram.ensures_found made continues

section Undecoded

variable {argument : DecoderValue} (raises : ends (.error .unicodeDecodeError))

include raises

theorem dioBio_raises (undecoded : ¬ image.NamesDecode argument .dioBio) :
    (image.interpret .dioBio).Ensures "interpreted" (keptArgument .dioBio argument) ends
      (keptArgument .dioBio argument) := by
  simp only [NamesDecode, not_forall, exists_prop, ne_eq] at undecoded
  rcases undecoded with ⟨sb, super, failed⟩
  rcases except_bind_ok.mp super with ⟨dio, made, super⟩
  rcases except_bind_ok.mp super with ⟨inode, inodeFound, sbFound⟩
  refine ⟨argument, rfl, ?_⟩
  apply ensures_privateOf made ⟨_, rfl⟩
  apply ensures_keeping (by decide) rfl
  apply AttributeProgram.ensures_found inodeFound
  apply AttributeProgram.ensures_found sbFound
  by_cases bad : image.superFstype sb = .error .unicodeDecodeError
  · exact ensures_undecoded bad raises
  · simp only [bad, not_false_eq_true, true_and, not_forall, exists_prop, not_not] at failed
    rcases failed with ⟨fstype, bdev, named, bdevFound, failed⟩
    apply AttributeProgram.ensures_found named
    refine ⟨by decide, rfl, dio, rfl, ?_⟩
    apply AttributeProgram.ensures_found inodeFound
    apply AttributeProgram.ensures_found sbFound
    apply AttributeProgram.ensures_found bdevFound
    exact ensures_undecoded failed raises

theorem mPage_raises (undecoded : ¬ image.NamesDecode argument .mPage) :
    (image.interpret .mPage).Ensures "interpreted" (keptArgument .mPage argument) ends
      (keptArgument .mPage argument) := by
  simp only [NamesDecode, not_forall, exists_prop, ne_eq, not_not] at undecoded
  rcases undecoded with ⟨sb, super, failed⟩
  rcases except_bind_ok.mp super with ⟨vectors, vectorsFound, super⟩
  rcases except_bind_ok.mp super with ⟨vector, vectorFound, super⟩
  rcases except_bind_ok.mp super with ⟨page, pageFound, super⟩
  rcases except_bind_ok.mp super with ⟨mapping, mappingFound, super⟩
  rcases except_bind_ok.mp super with ⟨inode, inodeFound, sbFound⟩
  refine ⟨argument, rfl, ?_⟩
  apply AttributeProgram.ensures_found vectorsFound
  apply AttributeProgram.ensures_found vectorFound
  apply AttributeProgram.ensures_found pageFound
  apply AttributeProgram.ensures_found mappingFound
  apply AttributeProgram.ensures_found inodeFound
  apply ensures_keeping (by decide) rfl
  apply AttributeProgram.ensures_found sbFound
  exact ensures_undecoded failed raises

theorem xfsBufBio_raises (undecoded : ¬ image.NamesDecode argument .xfsBufBio) :
    (image.interpret .xfsBufBio).Ensures "interpreted" (keptArgument .xfsBufBio argument) ends
      (keptArgument .xfsBufBio argument) := by
  simp only [NamesDecode, not_forall, exists_prop, ne_eq, not_not] at undecoded
  rcases undecoded with ⟨xfsbuf, bdev, made, found, failed⟩
  refine ⟨argument, rfl, ?_⟩
  apply ensures_privateOf made ⟨_, rfl⟩
  refine ⟨by decide, rfl, argument, rfl, ?_⟩
  apply AttributeProgram.ensures_found found
  exact ensures_undecoded failed raises

/-- Where a name that the method comes to is no text, the method raises the exception of that. -/
theorem interpret_raises {kind : DecoderKind} (undecoded : ¬ image.NamesDecode argument kind) :
    (image.interpret kind).Ensures "interpreted" (keptArgument kind argument) ends
      (keptArgument kind argument) := by
  cases kind with
  | genericBH =>
      simp only [NamesDecode, not_forall, exists_prop, ne_eq, not_not] at undecoded
      rcases undecoded with ⟨bdev, found, failed⟩
      refine ⟨argument, rfl, ?_⟩
      apply AttributeProgram.ensures_found found
      exact ensures_undecoded failed raises
  | dioBio => exact dioBio_raises raises undecoded
  | mPage => exact mPage_raises raises undecoded
  | xfsBufBio => exact xfsBufBio_raises raises undecoded
  | ext3 =>
      simp only [NamesDecode, not_forall, exists_prop, ne_eq, not_not] at undecoded
      rcases undecoded with ⟨bdev, found, failed⟩
      refine ⟨by decide, rfl, argument, rfl, ?_⟩
      apply AttributeProgram.ensures_found found
      exact ensures_undecoded failed raises
  | _ => exact False.elim (undecoded trivial)

end Undecoded

/-! ## The constructors -/

theorem initRest_eq {kind : DecoderKind} (defined : annotated kind = none)
    (argument : DecoderValue) :
    image.initRest kind argument = .assign kind.argument argument .done := by
  cases kind <;> first | rfl | cases defined

theorem argument_ne (kind : DecoderKind) : kind.argument ≠ "interpreted" := by
  cases kind <;> decide

/-- What is known of a new decoder has its values. -/
theorem keptArgument_member {kind : DecoderKind} {name : String} {value : DecoderValue}
    (argument : DecoderValue)
    (known : (if name = "_types" ∧ name ∈ kind.members then some (DecoderValue.member name)
      else none) = some value) :
    name ≠ "interpreted" ∧ (image.decoder kind argument).member name = some value := by
  split at known
  · next types =>
      refine ⟨?_, ?_⟩
      · rw [types.1]
        decide
      · rw [← known]
        exact if_pos (List.mem_append_right _ types.2)
  · cases known

/-- A class that defines all it annotates is safe, if the names are text. -/
theorem decoder_safe {kind : DecoderKind} (defined : annotated kind = none)
    {argument : DecoderValue} (decodes : image.NamesDecode argument kind) :
    (image.decoder kind argument).Safe Tolerable := by
  refine ⟨.flag false, image.initRest kind argument, _, rfl, rfl,
    fun name value known => keptArgument_member argument known, ?_⟩
  rw [initRest_eq defined]
  refine ⟨argument_ne kind, rfl, keptArgument kind argument, rfl, ?_, ?_⟩
  · cases kind <;> rfl
  · exact interpret_ensures defined (fun error => .inr ⟨error, rfl⟩) (fun _ => trivial) decodes

theorem annotated_shape {kind : DecoderKind} {getter : String}
    (undefined : annotated kind = some getter) (argument : DecoderValue) :
    (Exists fun next : DecoderValue -> DecoderProgram =>
        image.initRest kind argument = .assign kind.argument argument (.read getter next)) ∧
      (Exists fun next : DecoderValue -> DecoderProgram =>
        image.interpret kind = .read getter next) ∧
      getter ∉ decoderMembers ++ kind.members ∧ getter ≠ kind.argument ∧ getter ≠ "interpreted" := by
  cases kind with
  | clonedBioReq =>
      cases undefined
      exact ⟨⟨_, rfl⟩, ⟨_, rfl⟩, by decide⟩
  | clonedBio =>
      cases undefined
      exact ⟨⟨_, rfl⟩, ⟨_, rfl⟩, by decide⟩
  | _ => cases undefined

/-- A decoder whose constructor has kept its argument. -/
def begun (kind : DecoderKind) (argument : DecoderValue) : LazyState String DecoderValue :=
  (LazyState.new.assign "interpreted" (.flag false)).assign kind.argument argument

theorem construct_begun {kind : DecoderKind} (defined : annotated kind = none)
    (argument : DecoderValue) (limit : Nat) :
    (image.decoder kind argument).construct limit = (begun kind argument, .ok ()) := by
  cases kind <;> first | rfl | cases defined

theorem begun_there (kind : DecoderKind) (argument : DecoderValue) :
    (image.decoder kind argument).There (keptArgument kind argument) (begun kind argument) := by
  apply LazyClass.There.update
  intro name value known
  rcases @keptArgument_member image _ _ _ argument known with ⟨other, member⟩
  rw [LazyClass.lookup_assign, if_neg other]
  exact member

/-- A read of a missing attribute raises, where a name is no text. -/
theorem getattrs_undecoded {kind : DecoderKind} {argument : DecoderValue}
    (undecoded : ¬ image.NamesDecode argument kind) (limit : Nat) :
    ((image.decoder kind argument).getattrs (limit + 1) [""] (begun kind argument)).2 =
      [.error .unicodeDecodeError] := by
  have flag : (begun kind argument).attributes "interpreted" = some (.flag false) :=
    (Function.update_of_ne (argument_ne kind).symm _ _).trans rfl
  have missing : (image.decoder kind argument).lookup "" (begun kind argument) = none := by
    cases kind <;> rfl
  have raises := @interpret_raises image (fun ending => ending = .error .unicodeDecodeError) argument
    rfl kind undecoded
  have raised := @LazyClass.getattr_raises _ _ _ _ (image.decoder kind argument) limit "" _ _ _
    .unicodeDecodeError flag rfl missing (begun_there kind argument) raises
  simp only [LazyClass.getattrs]
  rw [raised]

/-- A class that only annotates what it should define can not be instantiated, and the deeper the
limit is, the more often its method runs within itself. -/
theorem construct_recursion {kind : DecoderKind} {getter : String}
    (undefined : annotated kind = some getter) (argument : DecoderValue) (limit : Nat) :
    ((image.decoder kind argument).construct limit).2 = .error .recursionError ∧
      limit ≤ ((image.decoder kind argument).construct limit).1.deepest := by
  rcases @annotated_shape image _ _ undefined argument with
    ⟨⟨next, init⟩, ⟨later, interpret⟩, unknown, notArgument, notFlag⟩
  have missing : (begun kind argument).attributes getter = none := by
    refine (Function.update_of_ne notArgument _ _).trans ?_
    exact Function.update_of_ne notFlag _ _
  have flag : (begun kind argument).attributes "interpreted" = some (.flag false) :=
    (Function.update_of_ne (argument_ne kind).symm _ _).trans rfl
  have recursion := @LazyClass.getattr_recursion _ _ _ _ (image.decoder kind argument) _ _ interpret
    (if_neg unknown) limit (begun kind argument) missing ⟨.flag false, flag, rfl⟩ (Nat.le_refl 0)
  have started : (image.decoder kind argument).construct limit =
      (AttributeProgram.read getter next).run ((image.decoder kind argument).getattr limit)
        (begun kind argument) := by
    change (image.initRest kind argument).run _ _ = _
    rw [init]
    rfl
  rcases read : (image.decoder kind argument).getattr limit getter
      (begun kind argument) with ⟨after, result⟩
  rw [read] at recursion
  rcases recursion with ⟨failed, deep⟩
  dsimp only at failed deep
  subst failed
  rw [started, AttributeProgram.run, read]
  exact ⟨rfl, Nat.le_trans (Nat.le_add_left limit _) deep⟩

theorem annotated_eq_none {kind : DecoderKind} :
    annotated kind = none <-> kind ≠ .clonedBioReq ∧ kind ≠ .clonedBio := by
  cases kind <;> decide

/-- A bio that the device mapper has cloned can not be decoded. -/
theorem decodeBio_recursion {bio : DecoderValue} {kind : DecoderKind} {getter : String}
    (found : image.decoderKind bio = .ok kind) (undefined : annotated kind = some getter)
    (limit : Nat) : image.decodeBio limit bio = .error .recursionError := by
  have failed := (@construct_recursion image _ _ undefined bio limit).1
  have constructed : image.construct limit kind bio = .error .recursionError := by
    simp only [construct]
    rcases ran : (image.decoder kind bio).construct limit with ⟨state, result⟩
    rw [ran] at failed
    dsimp only at failed
    rw [failed]
  have tried : (image.decoderKind bio >>= fun kind => image.construct limit kind bio) =
      .error .recursionError := by
    rw [found]
    exact constructed
  simp only [decodeBio]
  rw [tried]

variable (image)

/-- The decoders that describe what they were made for, whatever is read of them, are all but
those of the device mapper, as far as the names that they read are text. -/
theorem describes_iff (kind : DecoderKind) (argument : DecoderValue) :
    (forall limit names, 2 ≤ limit -> image.Describes kind argument limit names) <->
      (kind ≠ .clonedBioReq ∧ kind ≠ .clonedBio) ∧ image.NamesDecode argument kind := by
  rw [← annotated_eq_none]
  constructor
  · intro describes
    cases undefined : annotated kind with
    | none =>
        refine ⟨rfl, ?_⟩
        by_contra undecoded
        have constructed := @construct_begun image _ undefined argument 2
        have raised := @getattrs_undecoded image _ _ undecoded 1
        have reads := (describes 2 [""] (Nat.le_refl 2)).reads
        rw [constructed] at reads
        rcases reads rfl .unicodeDecodeError (raised ▸ List.mem_singleton.mpr rfl) with
          ⟨_, same⟩ | ⟨_, same⟩
        · cases same
        · cases same
    | some getter =>
        have failed := (@construct_recursion image _ _ undefined argument 2).1
        rcases (describes 2 [] (Nat.le_refl 2)).constructs _ failed with ⟨_, same⟩ | ⟨_, same⟩
        · cases same
        · cases same
  · rintro ⟨defined, decodes⟩ limit names enough
    have safe := decoder_safe defined decodes
    rcases LazyClass.construct_ready safe limit with ⟨returned, ready, quiet, unfinished⟩
    refine ⟨fun error failed => ?_, ⟨?_, ?_⟩, fun _ error member => ?_, fun _ => ?_⟩
    · rw [returned] at failed
      cases failed
    · rw [quiet]
      exact Nat.zero_le 1
    · rw [unfinished]
      exact Nat.zero_le 1
    · rcases (LazyClass.getattrs_ready enough names ready).2 error member with
        ⟨name, missing⟩ | tolerable
      · exact .inl ⟨name, missing⟩
      · exact tolerable
    · have last := (LazyClass.getattrs_ready enough names ready).1
      exact ⟨last.single, last.once⟩

end StorageImage

/-- A kernel in which all values are zero, and zero is the end of a cloned bio. -/
def clonedImage : StorageImage where
  field := fun _ _ => .ok (.number 0)
  index := fun _ _ => .ok (.number 0)
  type := fun _ => .ok (.number 0)
  targetHasMember := fun _ _ => .ok true
  cast := fun value _ => .ok value
  containerOf := fun value _ _ => .ok value
  shiftLeft := fun value _ => .ok value
  toInt := fun _ => .ok 0
  string := fun _ => .ok (some "dm-0")
  registered := fun endio => if endio = 0 then some .clonedBioReq else none

/-- Whatever the limit, the constructor of a decoder of the device mapper goes beyond it. -/
theorem decodeBio_clonedBioReq :
    (forall limit, clonedImage.decodeBio limit (.number 4096) = .error .recursionError ∧
        limit ≤ ((clonedImage.decoder .clonedBioReq (.number 4096)).construct limit).1.deepest) ∧
      ¬ clonedImage.Describes .clonedBioReq (.number 4096) 1000 [] := by
  have recursion := fun limit => @StorageImage.construct_recursion clonedImage
    .clonedBioReq "_get_clone_bio_rq_info" rfl (.number 4096) limit
  refine ⟨fun limit => ⟨StorageImage.decodeBio_recursion rfl rfl limit, (recursion limit).2⟩, ?_⟩
  intro describes
  rcases describes.constructs _ (recursion 1000).1 with ⟨_, same⟩ | ⟨_, same⟩
  · cases same
  · cases same

end Subsystem
end CrashPython

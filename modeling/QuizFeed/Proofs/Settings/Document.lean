import QuizFeed.Proofs.Files.Replacing
import QuizFeed.Proofs.Ron.Fields
import QuizFeed.Settings.File

/-!
# Reading written settings

A settings file may leave out any fields and have the others in any order. A `Selection` says which
ones it has, and `Selection.document` is the file that has them with the values of some settings. It
is read as these settings with the default for every field that is left out (`load_document`). With
all the fields it is the document that is written when settings are saved.
-/

namespace QuizFeed

open Ron Ron.Reader

namespace FeedSettings

/-- The fields of feed settings, by what they hold. -/
inductive Field where
  | token
  | template
  | unpublished
  | titleStart
  deriving DecidableEq

/-- The name of a field in a file. -/
def Field.name : Field → String
  | token => "token"
  | template => "api_url_template"
  | unpublished => "fetch_unpublished"
  | titleStart => "empty_title_prefix"

/-- What is written for a field. -/
def written (settings : FeedSettings) : Field → Value
  | .token => .optionalText settings.token
  | .template => .string settings.template
  | .unpublished => .boolean settings.unpublished
  | .titleStart => .string settings.titleStart

/-- A field with its name, as it is written. -/
def item (settings : FeedSettings) (key : Field) : String × Value :=
  (key.name, settings.written key)

/-- Settings with the default for every field other than some. -/
def kept (settings : FeedSettings) (fields : List Field) : FeedSettings :=
  let default : FeedSettings := {}
  { token := if .token ∈ fields then settings.token else default.token
    template := if .template ∈ fields then settings.template else default.template
    unpublished := if .unpublished ∈ fields then settings.unpublished else default.unpublished
    titleStart := if .titleStart ∈ fields then settings.titleStart else default.titleStart }

/-- What is known of settings when some fields have been read. -/
def known (settings : FeedSettings) (read : List Field) : Partial where
  token := if .token ∈ read then some settings.token else none
  template := if .template ∈ read then some settings.template else none
  unpublished := if .unpublished ∈ read then some settings.unpublished else none
  titleStart := if .titleStart ∈ read then some settings.titleStart else none

/-- How a field is read. -/
def reading : Field → RecordField Partial
  | .token => .of "token" Partial.token (fun state token => { state with token := some token })
      (Reader.option Reader.string)
  | .template => .of "api_url_template" Partial.template
      (fun state template => { state with template := some template }) Reader.string
  | .unpublished => .of "fetch_unpublished" Partial.unpublished
      (fun state unpublished => { state with unpublished := some unpublished }) Reader.boolean
  | .titleStart => .of "empty_title_prefix" Partial.titleStart
      (fun state titleStart => { state with titleStart := some titleStart }) Reader.string

/-- What is written for a field starts with a character that is no white space. -/
theorem startsSolid_written (settings : FeedSettings) (key : Field) (level : Nat) :
    StartsSolid ((settings.written key).write level) := by
  cases key with
  | token => exact startsSolid_optionalText _ _
  | template | titleStart => exact startsSolid_string _ _
  | unpublished => exact startsSolid_boolean _ _

/-- A field that has not been read is read with its value. -/
theorem moves_reading (settings : FeedSettings) (key : Field) (read : List Field) (level : Nat)
    (rest : List Char) :
    Moves ((reading key).read (settings.known read))
      ((settings.written key).write level ++ ',' :: rest) (settings.known (key :: read))
      (',' :: rest) := by
  cases key with
  | token => exact moves_read_of_eq (moves_optionalText settings.token _ _) (by simp [known])
  | template => exact moves_read_of_eq (moves_writtenString _ settings.template _) (by simp [known])
  | unpublished =>
    exact moves_read_of_eq (moves_boolean settings.unpublished _ (by decide) _) (by simp [known])
  | titleStart =>
    exact moves_read_of_eq (moves_writtenString _ settings.titleStart _) (by simp [known])

/-- The fields of feed settings, as those of a record. -/
def layout (settings : FeedSettings) : RecordFields Field Partial FeedSettings where
  fields := fields
  complete := Partial.complete
  name := Field.name
  written := settings.written
  reading := reading
  known := settings.known
  kept := settings.kept
  isName_name key := by cases key <;> decide
  find?_name key := by cases key <;> simp [fields, RecordField.of, Field.name, reading]
  startsSolid_written := settings.startsSolid_written
  isSet_known key read absent := by cases key <;> simp [reading, RecordField.of, known, absent]
  moves_written := settings.moves_reading
  complete_known read := by
    unfold known Partial.complete kept
    ext <;> (simp only [List.mem_reverse]; split <;> rfl)

/-- Feed settings with some fields are read with the defaults for the others. -/
theorem moves_reader (settings : FeedSettings) {chosen : List Field} (distinct : chosen.Nodup)
    (depth level : Nat) (rest : List Char) :
    Moves (reader depth) ((recordOf (chosen.map settings.item)).write level ++ rest)
      (settings.kept chosen) rest :=
  settings.layout.moves_reader distinct "FeedSettings" depth level rest

end FeedSettings

namespace MediaSettings

/-- The fields of media settings, by what they hold. -/
inductive Field where
  | images
  | icons
  deriving DecidableEq

/-- The name of a field in a file. -/
def Field.name : Field → String
  | images => "local_images"
  | icons => "icon_base"

/-- What is written for a field. -/
def written (settings : MediaSettings) : Field → Value
  | .images => .string settings.images.text
  | .icons => .string settings.icons.text

/-- A field with its name, as it is written. -/
def item (settings : MediaSettings) (key : Field) : String × Value :=
  (key.name, settings.written key)

/-- Settings with the default for every field other than some. -/
def kept (settings : MediaSettings) (fields : List Field) : MediaSettings :=
  let default : MediaSettings := {}
  { images := if .images ∈ fields then settings.images else default.images
    icons := if .icons ∈ fields then settings.icons else default.icons }

/-- What is known of settings when some fields have been read. -/
def known (settings : MediaSettings) (read : List Field) : Partial where
  images := if .images ∈ read then some settings.images else none
  icons := if .icons ∈ read then some settings.icons else none

/-- How a field is read. -/
def reading : Field → RecordField Partial
  | .images => .of "local_images" Partial.images
      (fun state images => { state with images := some images }) (Path.mk <$> Reader.string)
  | .icons => .of "icon_base" Partial.icons
      (fun state icons => { state with icons := some icons }) (Path.mk <$> Reader.string)

/-- A path is read as the text that is written for it. -/
theorem moves_path (path : Path) (level : Nat) (rest : List Char) :
    Moves (Path.mk <$> Reader.string) ((Value.string path.text).write level ++ rest) path rest := by
  rw [← bind_pure_comp]
  exact (moves_writtenString level path.text rest).bind (.pure path rest)

/-- A field that has not been read is read with its value. -/
theorem moves_reading (settings : MediaSettings) (key : Field) (read : List Field) (level : Nat)
    (rest : List Char) :
    Moves ((reading key).read (settings.known read))
      ((settings.written key).write level ++ ',' :: rest) (settings.known (key :: read))
      (',' :: rest) := by
  cases key with
  | images => exact moves_read_of_eq (moves_path settings.images _ _) (by simp [known])
  | icons => exact moves_read_of_eq (moves_path settings.icons _ _) (by simp [known])

/-- The fields of media settings, as those of a record. -/
def layout (settings : MediaSettings) : RecordFields Field Partial MediaSettings where
  fields := fields
  complete := Partial.complete
  name := Field.name
  written := settings.written
  reading := reading
  known := settings.known
  kept := settings.kept
  isName_name key := by cases key <;> decide
  find?_name key := by cases key <;> simp [fields, RecordField.of, Field.name, reading]
  startsSolid_written key level := by cases key <;> exact startsSolid_string _ _
  isSet_known key read absent := by cases key <;> simp [reading, RecordField.of, known, absent]
  moves_written := settings.moves_reading
  complete_known read := by
    unfold known Partial.complete kept
    ext <;> (simp only [List.mem_reverse]; split <;> rfl)

/-- Media settings with some fields are read with the defaults for the others. -/
theorem moves_reader (settings : MediaSettings) {chosen : List Field} (distinct : chosen.Nodup)
    (depth level : Nat) (rest : List Char) :
    Moves (reader depth) ((recordOf (chosen.map settings.item)).write level ++ rest)
      (settings.kept chosen) rest :=
  settings.layout.moves_reader distinct "MediaSettings" depth level rest

end MediaSettings

namespace Settings

/-- The groups of settings. -/
inductive Group where
  | feed
  | media
  deriving DecidableEq

/-- The name of a group in a file. -/
def Group.name : Group → String
  | feed => "feed"
  | media => "media"

/-- Which groups and fields a settings file has, each in their order. -/
structure Selection where
  groups : List Group
  feed : List FeedSettings.Field
  media : List MediaSettings.Field
  distinctGroups : groups.Nodup
  distinctFeed : feed.Nodup
  distinctMedia : media.Nodup

namespace Selection

/-- What is written for a group. -/
def written (selection : Selection) (settings : Settings) : Group → Value
  | .feed => recordOf (selection.feed.map settings.feed.item)
  | .media => recordOf (selection.media.map settings.media.item)

/-- A group with its name, as it is written. -/
def item (selection : Selection) (settings : Settings) (key : Group) : String × Value :=
  (key.name, selection.written settings key)

/-- The settings file with the values of some settings. -/
def document (selection : Selection) (settings : Settings) : String :=
  (recordOf (selection.groups.map (selection.item settings))).document

/-- Settings with the default for everything that is left out. -/
def kept (selection : Selection) (settings : Settings) : Settings where
  feed := if .feed ∈ selection.groups then settings.feed.kept selection.feed else {}
  media := if .media ∈ selection.groups then settings.media.kept selection.media else {}

/-- All fields, in the order in which they are written. -/
def all : Selection where
  groups := [.feed, .media]
  feed := [.token, .template, .unpublished, .titleStart]
  media := [.images, .icons]
  distinctGroups := by decide
  distinctFeed := by decide
  distinctMedia := by decide

/-- The file with all the fields is the one that is written. -/
theorem document_all (settings : Settings) : all.document settings = settings.document := by
  unfold document Settings.document toValue FeedSettings.toValue
  cases token : settings.feed.token <;>
    simp [all, item, written, Group.name, recordOf, FeedSettings.item, FeedSettings.written,
      FeedSettings.Field.name, MediaSettings.item, MediaSettings.written,
      MediaSettings.Field.name, MediaSettings.toValue, token, Value.optionalText]

/-- With all the fields nothing is left out. -/
theorem kept_all (settings : Settings) : all.kept settings = settings := rfl

/-- What is known of settings when some groups have been read. -/
def known (selection : Selection) (settings : Settings) (read : List Group) : Partial where
  feed := if .feed ∈ read then some (settings.feed.kept selection.feed) else none
  media := if .media ∈ read then some (settings.media.kept selection.media) else none

/-- How a group is read. -/
def reading : Group → RecordField Partial
  | .feed => .of "feed" Partial.feed (fun state feed => { state with feed := some feed })
      (FeedSettings.reader (depthLimit - 4))
  | .media => .of "media" Partial.media (fun state media => { state with media := some media })
      (MediaSettings.reader (depthLimit - 4))

/-- A group that has not been read is read with its value. -/
theorem moves_reading (selection : Selection) (settings : Settings) (key : Group)
    (read : List Group) (level : Nat) (rest : List Char) :
    Moves ((reading key).read (selection.known settings read))
      ((selection.written settings key).write level ++ ',' :: rest)
      (selection.known settings (key :: read)) (',' :: rest) := by
  cases key with
  | feed =>
    exact moves_read_of_eq (settings.feed.moves_reader selection.distinctFeed _ _ _)
      (by simp [known])
  | media =>
    exact moves_read_of_eq (settings.media.moves_reader selection.distinctMedia _ _ _)
      (by simp [known])

/-- The groups of settings, as the fields of a record. -/
def layout (selection : Selection) (settings : Settings) :
    RecordFields Group Partial Settings where
  fields := fields
  complete := Partial.complete
  name := Group.name
  written := selection.written settings
  reading := reading
  known := selection.known settings
  kept groups :=
    { feed := if .feed ∈ groups then settings.feed.kept selection.feed else {}
      media := if .media ∈ groups then settings.media.kept selection.media else {} }
  isName_name key := by cases key <;> decide
  find?_name key := by cases key <;> simp [fields, RecordField.of, Group.name, reading]
  startsSolid_written key level := by cases key <;> exact startsSolid_recordOf _ _
  isSet_known key read absent := by cases key <;> simp [reading, RecordField.of, known, absent]
  moves_written := selection.moves_reading settings
  complete_known read := by
    unfold known Partial.complete
    simp only [List.mem_reverse]
    congr 1 <;> split <;> rfl

/-- Settings with some fields are read with the defaults for the others. -/
theorem moves_reader (selection : Selection) (settings : Settings) (level : Nat)
    (rest : List Char) :
    Moves reader
      ((recordOf (selection.groups.map (selection.item settings))).write level ++ rest)
      (selection.kept settings) rest :=
  (selection.layout settings).moves_reader selection.distinctGroups "AppSettings" _ level rest

/-- The document of a selection is read as the settings with the defaults for what is left out. -/
theorem ofDocument_document (selection : Selection) (settings : Settings) :
    ofDocument (selection.document settings) = .ok (selection.kept settings) := by
  have text : (selection.document settings).toList =
      (recordOf (selection.groups.map (selection.item settings))).write 0 := String.toList_ofList
  have reads := selection.moves_reader settings 0 []
  rw [List.append_nil, ← text] at reads
  obtain ⟨others, written⟩ :=
    exists_write_recordOf 0 (selection.groups.map (selection.item settings))
  have move : Moves (Reader.document reader) (selection.document settings).toList
      (selection.kept settings) [] := by
    refine moves_document ⟨'(', others, text.trans written, by decide⟩ ?_ reads
    rw [text, written]
    exact fun same => absurd (Option.some.inj same) (by decide)
  exact read_of_moves move

end Selection

section Files

variable {ε : Type} (outside : Outside ε)

/-- A file that holds the document of some settings is loaded as them. -/
theorem run_load {path : Path} {text : String} {settings : Settings} {world : World ε}
    (held : world.disk.contentAt path = .ok text.toUTF8) (read : ofDocument text = .ok settings) :
    (load path).run outside world = (.ok settings, world) := by
  unfold load
  rw [Program.run_bind, Program.run_readText outside held]
  dsimp only
  rw [read]
  rfl

/-- What saving settings leaves under the path that it answers with. -/
theorem contentAt_save {path written : Path} {settings : Settings} {world after : World ε}
    (saved : (save path settings).run outside world = (.ok written, after)) :
    after.disk.contentAt written = .ok settings.document.toUTF8 := by
  unfold save at saved
  split at saved
  case h_1 => cases saved
  case h_2 name _ =>
    rw [Program.run_bind] at saved
    obtain ⟨prepared, -, ⟨⟨failure, failed⟩, -⟩ | ⟨done, -, found⟩⟩ :=
      Program.writeFile_holds outside settings.document.toUTF8 (directoryOf path) name world
    · rw [failed] at saved
      cases saved
    · rw [done] at saved
      cases saved
      exact found

/-- Settings are read back from a file that has any fields of them in any order, with the defaults
for the others; and what is saved is read back as it was. -/
theorem load_document (path : Path) (settings : Settings) (world : World ε) :
    (∀ selection : Selection,
      world.disk.contentAt path = .ok (selection.document settings).toUTF8 →
      (load path).run outside world = (.ok (selection.kept settings), world)) ∧
    (∀ written after, (save path settings).run outside world = (.ok written, after) →
      after.disk.contentAt written = .ok (Selection.all.document settings).toUTF8 ∧
      (load written).run outside after = (.ok settings, after)) := by
  refine ⟨fun selection held => run_load outside held (selection.ofDocument_document settings),
    fun written after saved => ?_⟩
  have held := contentAt_save outside saved
  rw [← Selection.document_all] at held
  have read := Selection.all.ofDocument_document settings
  rw [Selection.kept_all] at read
  exact ⟨held, run_load outside held read⟩

/-- A file with a part of some settings, the groups and the fields turned around. -/
theorem load_document_turned :
    let selection : Selection := {
      groups := [.media, .feed]
      feed := [.titleStart, .token]
      media := []
      distinctGroups := by decide
      distinctFeed := by decide
      distinctMedia := by decide }
    let settings : Settings := {
      feed := { token := some "a\"\\\n\u0301", template := "t", titleStart := "\x00" }
      media := { images := ⟨"i"⟩ } }
    let outside : Outside Unit := ⟨fun state => (.epoch, state), fun _ state => (.ok .empty, state)⟩
    let world : World Unit :=
      ⟨⟨[(["s.ron"], .file (selection.document settings).toUTF8)], [], []⟩, [], [], [], ()⟩
    world.disk.contentAt ⟨"s.ron"⟩ = .ok (selection.document settings).toUTF8 ∧
      (load ⟨"s.ron"⟩).run outside world =
        (.ok { feed := { token := some "a\"\\\n\u0301", titleStart := "\x00" } }, world) ∧
      ∃ after, (save ⟨"s.ron"⟩ settings).run outside world = (.ok ⟨"./s.ron"⟩, after) ∧
        (load ⟨"./s.ron"⟩).run outside after = (.ok settings, after) := by
  intro selection settings outside world
  have held : world.disk.contentAt ⟨"s.ron"⟩ = .ok (selection.document settings).toUTF8 :=
    Files.Disk.contentAt_eq_ok.mpr ⟨["s.ron"], eq_ok_of_toOption (by decide), rfl⟩
  have saved : ((save ⟨"s.ron"⟩ settings).run outside world).1 = .ok ⟨"./s.ron"⟩ :=
    eq_ok_of_toOption (by decide)
  have both := load_document outside ⟨"s.ron"⟩ settings world
  exact ⟨held, both.1 selection held, _, Prod.ext saved rfl, (both.2 _ _ (Prod.ext saved rfl)).2⟩

end Files

end Settings

end QuizFeed
